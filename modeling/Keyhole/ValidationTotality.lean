import Keyhole.ValidationPipeline

/-!
# When local validation is total and fail-closed

`validator.py` promises that malformed data is never silently treated as valid.  Two
things stand in the way.  The passes that read the raw documents again walk values
whose shape was only reported, not changed, so that a number under `produces` or
`dependencies` ends the whole validation with a `TypeError`; and the checks of the
shapes themselves look at truth values, so that an empty value of the wrong type
passes.

* `Walkable` — the documents the second passes can walk; `returns_findings`: they
  return exactly on these;
* `WrongShape` — a `produces` or `dependencies` value of the wrong shape;
* `status_reject_iff` — a graded repository is rejected exactly when some rule
  condemns it;
* `failClosed_iff` — for every repository, mode and strictness, exactly when the
  validation returns and rejects every wrong shape. -/

namespace KeyholeTotality

open KeyholeJson (strip)
open KeyholeYaml KeyholeNamespace KeyholeValidation KeyholePipeline ExceptLoops

/-! ## What the second passes can walk -/

/-- What a loop over `v or []` walks. -/
def elementsOf (v : Yaml) : List Yaml := (elements (orElse v (.seq []))).getD []

/-- `for` can walk the value, or it counts as nothing. -/
def Walks (v : Yaml) : Prop := truthy v = true → (elements v).isSome = true

theorem orElse_getOr_seq (data : Fields) (key : String) :
    orElse (Fields.getOr data key (.seq [])) (.seq []) = orElse (Fields.get data key) (.seq []) := by
  cases h : Fields.find data key with
  | none =>
    rw [getOr_of_find_none h, Fields.get, h]
    rfl
  | some v => rw [getOr_of_find h, get_of_find h]

theorem returns_iterate (v : Yaml) : Returns (iterate v) ↔ (elements v).isSome = true := by
  rw [iterate]
  cases elements v with
  | none => exact ⟨fun h => absurd h (not_returns_error _), nofun⟩
  | some items => exact ⟨fun _ => rfl, fun _ => returns_ok items⟩

theorem returns_walked (data : Fields) (key : String) :
    Returns (walked data key) ↔ Walks (Fields.get data key) := by
  rw [walked, orElse_getOr_seq, returns_iterate, orElse, Walks]
  cases truthy (Fields.get data key) with
  | true => exact ⟨fun h _ => h, fun h => h rfl⟩
  | false => exact ⟨nofun, fun _ => rfl⟩

variable {strict : Bool} {data dep : Fields} {v item : Yaml} {items : List Yaml} {found : Findings}
variable {key fname : String}

theorem walked_eq (h : walked data key = .ok items) : items = elementsOf (Fields.get data key) := by
  rw [walked, orElse_getOr_seq, iterate] at h
  rw [elementsOf]
  cases he : elements (orElse (Fields.get data key) (.seq [])) with
  | none => rw [he] at h; exact nomatch h
  | some found => rw [he] at h; cases h; rfl

/-- The entries of `dependencies`. -/
def entries (dependencies : Fields) : List Fields :=
  mappings (elementsOf (Fields.get dependencies "dependencies"))

theorem mem_mappings :
    dep ∈ mappings items ↔ Yaml.map dep ∈ items := by
  induction items with
  | nil => exact ⟨nofun, nofun⟩
  | cons item rest ih =>
    cases item with
    | map fields => simp [mappings, ih]
    | _ => simp [mappings, ih]

/-! ## The strict pass -/

/-- The types that have a `strip`. -/
def hasStrip : Yaml → Bool
  | .str _ => true
  | .bytes _ => true
  | _ => false

/-- The strict pass can strip the provider of the entry, if it gets to it. -/
def Strips (dep : Fields) : Prop :=
  truthy (Fields.get dep "capability") = true → truthy (Fields.get dep "provider") = true →
    hasStrip (Fields.get dep "provider") = true

theorem returns_providerGiven (provider : Yaml) :
    Returns (providerGiven provider) ↔ (truthy provider = true → hasStrip provider = true) := by
  rw [providerGiven, orElse]
  cases ht : truthy provider with
  | false => exact ⟨nofun, fun _ => returns_ok _⟩
  | true =>
    cases provider with
    | str text => exact ⟨fun _ _ => rfl, fun _ => returns_ok _⟩
    | bytes content => exact ⟨fun _ _ => rfl, fun _ => returns_ok _⟩
    | _ =>
      exact ⟨fun h => absurd h (not_returns_error _), fun h => (nomatch h rfl)⟩

theorem returns_strictEntry (idx : Nat) (item : Yaml) :
    Returns (strictEntry idx item) ↔ ∀ dep, item = .map dep → Strips dep := by
  cases item with
  | map dep =>
    have hdep : (∀ d, Yaml.map dep = .map d → Strips d) ↔ Strips dep :=
      ⟨fun h => h dep rfl, fun h d hd => by cases hd; exact h⟩
    rw [hdep, Strips, ← returns_providerGiven]
    show Returns (if truthy (Fields.get dep "capability") = true then
      providerGiven (Fields.get dep "provider") >>= fun given =>
        pure (if given = true then [] else [providerIssue idx]) else .ok []) ↔ _
    cases truthy (Fields.get dep "capability") with
    | true =>
      rw [if_pos rfl, returns_bind_of_forall fun given => returns_pure _]
      exact ⟨fun h _ => h, fun h => h rfl⟩
    | false => exact ⟨nofun, fun _ => returns_ok []⟩
  | _ =>
    exact ⟨nofun, fun _ => returns_ok []⟩

theorem returns_strictProviders (dependencies : Fields) :
    Returns (strictProviders dependencies)
      ↔ Walks (Fields.get dependencies "dependencies")
        ∧ ∀ dep ∈ entries dependencies, Strips dep := by
  have hall : ∀ items : List Yaml, Returns (collect strictEntry 0 items)
      ↔ ∀ dep ∈ mappings items, Strips dep := by
    intro items
    rw [returns_collect returns_strictEntry]
    constructor
    · intro h dep hdep
      exact h _ (mem_mappings.mp hdep) dep rfl
    · intro h item hitem dep hdep
      exact h dep (mem_mappings.mpr (hdep ▸ hitem))
  rw [strictProviders, returns_bind, ← returns_walked]
  constructor
  · rintro ⟨items, hwalk, hrun⟩
    refine ⟨⟨items, hwalk⟩, ?_⟩
    rw [entries, ← walked_eq hwalk]
    exact (hall items).mp hrun
  · rintro ⟨⟨items, hwalk⟩, hstrips⟩
    rw [entries, ← walked_eq hwalk] at hstrips
    exact ⟨items, hwalk, (hall items).mpr hstrips⟩

/-! ## Versions that are numbers -/

/-- The major version of the name, if it has one, is not too long for `int`. -/
def ShortVersion (name : String) : Prop :=
  ∀ base digits, namespaceVersion name = some (base, digits) → digits.length ≤ intMaxStrDigits

theorem returns_intOf (digits : Text) :
    Returns (intOf digits) ↔ digits.length ≤ intMaxStrDigits := by
  rw [intOf]
  by_cases h : intMaxStrDigits < digits.length
  · rw [if_pos h]
    exact ⟨fun hr => absurd hr (not_returns_error _), fun hle => absurd h (by omega)⟩
  · rw [if_neg h]
    exact ⟨fun _ => by omega, fun _ => returns_ok _⟩

theorem returns_baseVer (name : String) : Returns (baseVer name) ↔ ShortVersion name := by
  rw [baseVer]
  cases h : namespaceVersion name with
  | none =>
    exact ⟨fun _ base digits hv => (nomatch h.symm.trans hv), fun _ => returns_ok none⟩
  | some entry =>
    obtain ⟨base, digits⟩ := entry
    show Returns (intOf digits >>= fun ver => pure (some (base, ver))) ↔ _
    rw [returns_bind_of_forall fun ver => returns_pure _, returns_intOf]
    constructor
    · intro hle b d hv
      rw [h] at hv
      cases hv
      exact hle
    · intro hshort
      exact hshort base digits h

theorem returns_producesBases (produces : List String) :
    Returns (producesBases produces) ↔ ∀ name ∈ produces, ShortVersion name := by
  apply returns_foldlM
  intro bases name
  rw [producesStep, returns_bind_of_forall, returns_baseVer]
  intro found
  cases found with
  | none => exact returns_pure _
  | some entry => exact returns_pure _

theorem returns_majorConflicts (bases : List (Text × Nat)) (consumed : List String) :
    Returns (majorConflicts bases consumed) ↔ ∀ name ∈ consumed, ShortVersion name := by
  apply returns_foldlM
  intro found name
  rw [conflictStep, returns_bind_of_forall, returns_baseVer]
  intro version
  rcases version with _ | ⟨base, ver⟩
  · exact returns_pure _
  · dsimp only
    cases bases.lookup base with
    | none => exact returns_pure _
    | some produced =>
      by_cases hsame : produced = ver ∨ found.seen.contains base
      · show Returns (if _ then _ else _)
        rw [if_pos hsame]
        exact returns_pure _
      · show Returns (if _ then _ else _)
        rw [if_neg hsame]
        exact returns_pure _

/-- The strings a document lists under `produces`. -/
def produced (contract : Fields) : List String :=
  texts (elementsOf (Fields.get contract "produces"))

/-- The capabilities a document names under `dependencies`. -/
def consumed (dependencies : Fields) : List String :=
  consumedNames (elementsOf (Fields.get dependencies "dependencies"))

theorem returns_validateCompatibility (produces names : List String) (contract : Fields) :
    Returns (validateCompatibility produces names contract)
      ↔ (∀ name ∈ produces, ShortVersion name) ∧ ∀ name ∈ names, ShortVersion name := by
  rw [validateCompatibility, ← returns_producesBases]
  apply returns_bind_of_iff
  intro bases
  rw [returns_bind_of_forall fun conflicts => returns_pure _, returns_majorConflicts]

/-- The documents the second passes can walk. -/
structure Walkable (contract dependencies : Fields) (strict : Bool) : Prop where
  producesWalks : Walks (Fields.get contract "produces")
  dependenciesWalk : Walks (Fields.get dependencies "dependencies")
  providersStrip : strict = true → ∀ dep ∈ entries dependencies, Strips dep
  producedShort : ∀ name ∈ produced contract, ShortVersion name
  consumedShort : ∀ name ∈ consumed dependencies, ShortVersion name

theorem returns_compatibility (contract dependencies : Fields) :
    Returns (compatibility contract dependencies)
      ↔ (Walks (Fields.get contract "produces") ∧ Walks (Fields.get dependencies "dependencies"))
        ∧ (∀ name ∈ produced contract, ShortVersion name)
        ∧ ∀ name ∈ consumed dependencies, ShortVersion name := by
  rw [compatibility, returns_bind, ← returns_walked, ← returns_walked]
  constructor
  · rintro ⟨listed, hlisted, hrest⟩
    obtain ⟨named, hnamed, hrun⟩ := returns_bind.mp hrest
    rw [returns_validateCompatibility] at hrun
    rw [produced, consumed, ← walked_eq hlisted, ← walked_eq hnamed]
    exact ⟨⟨⟨listed, hlisted⟩, ⟨named, hnamed⟩⟩, hrun⟩
  · rintro ⟨⟨⟨listed, hlisted⟩, ⟨named, hnamed⟩⟩, hshort⟩
    rw [produced, consumed, ← walked_eq hlisted, ← walked_eq hnamed] at hshort
    refine ⟨listed, hlisted, returns_bind.mpr ⟨named, hnamed, ?_⟩⟩
    exact (returns_validateCompatibility _ _ _).mpr hshort

theorem returns_findings (yaml : Option Loader) (repo : Repo) (posture : ContractRepoPosture)
    (strict : Bool) :
    Returns (findings yaml repo posture strict)
      ↔ Walkable (rawDocument yaml "governance_contract.yaml" repo.contract)
          (rawDocument yaml "dependencies.yaml" repo.dependencies) strict := by
  have hstrict : Returns (strictIssues yaml repo strict) ↔ (strict = true →
      Walks (Fields.get (rawDocument yaml "dependencies.yaml" repo.dependencies) "dependencies")
        ∧ ∀ dep ∈ entries (rawDocument yaml "dependencies.yaml" repo.dependencies),
            Strips dep) := by
    rw [strictIssues, ← returns_strictProviders]
    cases strict with
    | true => exact ⟨fun h _ => h, fun h => h rfl⟩
    | false => exact ⟨nofun, fun _ => returns_ok []⟩
  have hrest : ∀ providers : List ValidationIssue,
      Returns (compatibilityIssues yaml repo >>= fun compat =>
        (pure ⟨(fileFindings yaml repo posture strict).issues ++ providers ++ compat,
          recordCompatibility strict compat (fileFindings yaml repo posture strict).files compat⟩ :
          Except Raised Findings)) ↔ Returns (compatibilityIssues yaml repo) :=
    fun providers => returns_bind_of_forall fun compat => returns_pure _
  rw [findings, returns_bind_of_iff hrest, hstrict, compatibilityIssues, returns_compatibility]
  constructor
  · rintro ⟨hproviders, ⟨hproduces, hdependencies⟩, hproduced, hconsumed⟩
    exact ⟨hproduces, hdependencies, fun h => (hproviders h).2, hproduced, hconsumed⟩
  · rintro ⟨hproduces, hdependencies, hproviders, hproduced, hconsumed⟩
    exact ⟨fun h => ⟨hdependencies, hproviders h⟩, ⟨hproduces, hdependencies⟩, hproduced,
      hconsumed⟩

/-! ## The grade -/

/-- A file is marked as rejected only beside an issue that rejects. -/
def Sound (strict : Bool) (found : Findings) : Prop :=
  ∀ file ∈ found.files, file.2 = .reject → ∃ issue ∈ found.issues, issue.hard strict = true

theorem domainStatus_reject {issues : List ValidationIssue}
    (h : domainStatus strict issues = .reject) : ∃ issue ∈ issues, issue.hard strict = true := by
  rw [domainStatus] at h
  by_cases hempty : issues.isEmpty = true
  · rw [if_pos hempty] at h
    exact nomatch h
  · rw [if_neg hempty] at h
    by_cases hany : issues.any (·.hard strict) = true
    · exact List.any_eq_true.mp hany
    · rw [if_neg hany] at h
      exact nomatch h

theorem Sound.record (h : Sound strict found) (fname : String) (issues : List ValidationIssue) :
    Sound strict (found.record strict fname issues) := by
  intro file hfile hreject
  rcases List.mem_append.mp hfile with hold | hnew
  · obtain ⟨issue, hissue, hhard⟩ := h file hold hreject
    exact ⟨issue, List.mem_append_left _ hissue, hhard⟩
  · rw [List.mem_singleton] at hnew
    subst hnew
    obtain ⟨issue, hissue, hhard⟩ := domainStatus_reject hreject
    exact ⟨issue, List.mem_append_right _ hissue, hhard⟩

/-- The issue of a required file that is not there. -/
theorem Findings.required_absent (posture : ContractRepoPosture) (strict : Bool)
    (found : Findings) (fname : String) {file : FileText} (issues : List ValidationIssue)
    (habsent : file.present = false) :
    found.required strict posture fname file issues = found
      ∨ ∃ issue, issue.hard strict = true
          ∧ found.required strict posture fname file issues
            = ⟨found.issues ++ [issue], found.files ++ [(fname, .reject)]⟩ := by
  rw [Findings.required, habsent, if_neg Bool.false_ne_true]
  by_cases hnative : posture = .native
  · rw [if_pos hnative]
    refine .inr ⟨_, ?_, rfl⟩
    cases strict <;> rfl
  · rw [if_neg hnative]
    exact .inl rfl

theorem Sound.required (h : Sound strict found)
    (posture : ContractRepoPosture) (fname : String) (file : FileText)
    (issues : List ValidationIssue) :
    Sound strict (found.required strict posture fname file issues) := by
  cases hpresent : file.present with
  | true =>
    rw [Findings.required, hpresent, if_pos rfl]
    exact h.record fname issues
  | false =>
    rcases Findings.required_absent posture strict found fname issues hpresent
      with heq | ⟨issue, hhard, heq⟩
    · rw [heq]
      exact h
    · rw [heq]
      intro _ _ _
      exact ⟨issue, List.mem_append_right _ List.mem_cons_self, hhard⟩

theorem Sound.optional (h : Sound strict found)
    (fname : String) (file : FileText) (issues : List ValidationIssue) :
    Sound strict (found.optional strict fname file issues) := by
  rw [Findings.optional]
  cases file.present with
  | true => exact h.record fname issues
  | false => exact h

theorem fileFindings_sound (yaml : Option Loader) (repo : Repo) (posture : ContractRepoPosture)
    (strict : Bool) : Sound strict (fileFindings yaml repo posture strict) :=
  have hnone : Sound strict ⟨[], []⟩ := nofun
  (((hnone.required posture _ _ _).required posture _ _ _).optional _ _ _).optional _ _ _

/-- The compatibility pass marks a file as rejected only for an issue of its own. -/
theorem recordCompatibility_reject {compat rest : List ValidationIssue}
    {files : List (String × ValidationStatus)} {file : String × ValidationStatus}
    (hfile : file ∈ recordCompatibility strict compat files rest) (hreject : file.2 = .reject) :
    file ∈ files ∨ ∃ issue ∈ compat, issue.hard strict = true := by
  induction rest generalizing files with
  | nil => exact .inl hfile
  | cons issue rest ih =>
    rw [recordCompatibility] at hfile
    by_cases hnew : issue.file ≠ "" ∧ (files.lookup issue.file).isNone
    · rw [if_pos hnew] at hfile
      rcases ih hfile with hmem | hhard
      · rcases List.mem_append.mp hmem with hold | hadded
        · exact .inl hold
        · rw [List.mem_singleton] at hadded
          subst hadded
          exact .inr (domainStatus_reject hreject)
      · exact .inr hhard
    · rw [if_neg hnew] at hfile
      exact ih hfile

theorem overallStatus_reject_iff (h : Sound strict found) :
    overallStatus strict found = .reject ↔ ∃ issue ∈ found.issues, issue.hard strict = true := by
  rw [overallStatus]
  by_cases hany : found.issues.any (·.hard strict) = true
  · rw [if_pos (by rw [hany, Bool.or_true])]
    exact ⟨fun _ => List.any_eq_true.mp hany, fun _ => rfl⟩
  · have hfiles : found.files.any (fun file => file.2 == .reject) = false := by
      rw [Bool.eq_false_iff]
      intro hmarked
      obtain ⟨file, hfile, hreject⟩ := List.any_eq_true.mp hmarked
      exact hany (List.any_eq_true.mpr (h file hfile (eq_of_beq hreject)))
    rw [hfiles, Bool.false_or, if_neg hany]
    constructor
    · intro hreject
      by_cases hwarn : (found.files.any (fun file => file.2 == .warn)
          || found.issues.any (fun issue => issueIsWarnOnly issue.reason strict)) = true
      · rw [if_pos hwarn] at hreject
        exact nomatch hreject
      · rw [if_neg hwarn] at hreject
        exact nomatch hreject
    · intro hhard
      exact absurd (List.any_eq_true.mpr hhard) hany

/-- What rejects a repository. -/
inductive Condemned (yaml : Option Loader) (repo : Repo) (posture : ContractRepoPosture)
    (strict : Bool) : Prop where
  /-- a required file is missing, or a file's own check finds something -/
  | file (issue : ValidationIssue) : issue ∈ (fileFindings yaml repo posture strict).issues →
      issue.hard strict = true → Condemned yaml repo posture strict
  /-- in strict mode, an entry names no provider -/
  | provider (dep : Fields) : strict = true →
      dep ∈ entries (rawDocument yaml "dependencies.yaml" repo.dependencies) →
      truthy (Fields.get dep "capability") = true →
      providerGiven (Fields.get dep "provider") = .ok false → Condemned yaml repo posture strict
  /-- the files do not go together -/
  | compatibility (compat : List ValidationIssue) (issue : ValidationIssue) :
      compatibilityIssues yaml repo = .ok compat → issue ∈ compat → issue.hard strict = true →
      Condemned yaml repo posture strict

theorem strictEntry_any (idx : Nat) (item : Yaml) (found : List ValidationIssue)
    (h : strictEntry idx item = .ok found) :
    (∃ issue ∈ found, issue.hard true = true) ↔
      ∃ dep, item = .map dep ∧ truthy (Fields.get dep "capability") = true
        ∧ providerGiven (Fields.get dep "provider") = .ok false := by
  cases item with
  | map dep =>
    change (if truthy (Fields.get dep "capability") = true then
      providerGiven (Fields.get dep "provider") >>= fun given =>
        pure (if given = true then [] else [providerIssue idx]) else .ok []) = .ok found at h
    by_cases hcap : truthy (Fields.get dep "capability") = true
    · rw [if_pos hcap] at h
      obtain ⟨given, hgiven, hfound⟩ := bind_ok.mp h
      cases hfound
      cases given with
      | true =>
        constructor
        · rintro ⟨issue, hissue, -⟩
          exact nomatch hissue
        · rintro ⟨dep', hdep, -, hnone⟩
          cases hdep
          rw [hgiven] at hnone
          exact nomatch hnone
      | false =>
        exact ⟨fun _ => ⟨dep, rfl, hcap, hgiven⟩,
          fun _ => ⟨providerIssue idx, List.mem_cons_self, rfl⟩⟩
    · rw [if_neg hcap] at h
      cases h
      constructor
      · rintro ⟨issue, hissue, -⟩
        exact nomatch hissue
      · rintro ⟨dep', hdep, hcap', -⟩
        cases hdep
        exact absurd hcap' hcap
  | _ =>
    cases h
    exact ⟨fun ⟨_, hissue, _⟩ => (nomatch hissue), fun ⟨_, hdep, _⟩ => (nomatch hdep)⟩

theorem strictIssues_any {yaml : Option Loader} {repo : Repo}
    {providers : List ValidationIssue} (h : strictIssues yaml repo strict = .ok providers) :
    (∃ issue ∈ providers, issue.hard strict = true) ↔ strict = true
      ∧ ∃ dep ∈ entries (rawDocument yaml "dependencies.yaml" repo.dependencies),
          truthy (Fields.get dep "capability") = true
            ∧ providerGiven (Fields.get dep "provider") = .ok false := by
  cases strict with
  | false =>
    cases h
    exact ⟨fun ⟨_, hissue, _⟩ => (nomatch hissue), fun ⟨hfalse, _⟩ => (nomatch hfalse)⟩
  | true =>
    obtain ⟨items, hwalk, hrun⟩ := bind_ok.mp (show strictProviders _ = .ok providers from h)
    rw [collect_any strictEntry_any hrun, entries, ← walked_eq hwalk]
    constructor
    · rintro ⟨item, hitem, dep, rfl, hcap, hnone⟩
      exact ⟨rfl, dep, mem_mappings.mpr hitem, hcap, hnone⟩
    · rintro ⟨-, dep, hdep, hcap, hnone⟩
      exact ⟨.map dep, mem_mappings.mp hdep, dep, rfl, hcap, hnone⟩

/-- A graded repository is rejected exactly when something condemns it. -/
theorem status_reject_iff {yaml : Option Loader} {repo : Repo} {posture : ContractRepoPosture}
    (h : findings yaml repo posture strict = .ok found) :
    overallStatus strict found = .reject ↔ Condemned yaml repo posture strict := by
  obtain ⟨providers, hproviders, h⟩ := bind_ok.mp h
  obtain ⟨compat, hcompat, h⟩ := bind_ok.mp h
  cases h
  have hsound : Sound strict ⟨(fileFindings yaml repo posture strict).issues ++ providers ++ compat,
      recordCompatibility strict compat (fileFindings yaml repo posture strict).files compat⟩ := by
    intro file hfile hreject
    rcases recordCompatibility_reject hfile hreject with hold | ⟨issue, hissue, hhard⟩
    · obtain ⟨issue, hissue, hhard⟩ := fileFindings_sound yaml repo posture strict file hold hreject
      exact ⟨issue, List.mem_append_left _ (List.mem_append_left _ hissue), hhard⟩
    · exact ⟨issue, List.mem_append_right _ hissue, hhard⟩
  rw [overallStatus_reject_iff hsound]
  constructor
  · rintro ⟨issue, hissue, hhard⟩
    rcases List.mem_append.mp hissue with hfirst | hissue
    · rcases List.mem_append.mp hfirst with hissue | hissue
      · exact .file issue hissue hhard
      · obtain ⟨hstrict, dep, hdep, hcap, hnone⟩ :=
          (strictIssues_any hproviders).mp ⟨issue, hissue, hhard⟩
        exact .provider dep hstrict hdep hcap hnone
    · exact .compatibility compat issue hcompat hissue hhard
  · rintro (⟨issue, hissue, hhard⟩ | ⟨dep, hstrict, hdep, hcap, hnone⟩ | ⟨_, issue, hrun, hissue, hhard⟩)
    · exact ⟨issue, List.mem_append_left _ (List.mem_append_left _ hissue), hhard⟩
    · obtain ⟨issue, hissue, hhard⟩ :=
        (strictIssues_any hproviders).mpr ⟨hstrict, dep, hdep, hcap, hnone⟩
      exact ⟨issue, List.mem_append_left _ (List.mem_append_right _ hissue), hhard⟩
    · rw [hcompat] at hrun
      cases hrun
      exact ⟨issue, List.mem_append_right _ hissue, hhard⟩

/-! ## Wrong shapes -/

/-- A value under `produces` or `dependencies` has the wrong shape: it is not a list,
    an element is of the wrong type, or a provider is not a string. -/
inductive WrongShape (contract dependencies : Fields) : Prop where
  | produces (v : Yaml) : Fields.find contract "produces" = some v → isSeq v = false →
      WrongShape contract dependencies
  | producesItem (items : List Yaml) (item : Yaml) :
      Fields.find contract "produces" = some (.seq items) → item ∈ items → isText item = false →
      WrongShape contract dependencies
  | dependencies (v : Yaml) : Fields.find dependencies "dependencies" = some v →
      isSeq v = false → WrongShape contract dependencies
  | entry (items : List Yaml) (item : Yaml) :
      Fields.find dependencies "dependencies" = some (.seq items) → item ∈ items →
      isMap item = false → WrongShape contract dependencies
  | provider (dep : Fields) (v : Yaml) : dep ∈ entries dependencies →
      Fields.find dep "provider" = some v → isText v = false → WrongShape contract dependencies

/-- The entry names a capability. -/
def named (dep : Fields) : Bool :=
  match Fields.getOr dep "capability" (.str "") with
  | .str cap => cap != ""
  | _ => false

/-- A wrong shape that a check looks for: all but a `dependencies` that is null, and
    a provider that counts as false beside a named capability, outside strict mode. -/
inductive Caught (contract dependencies : Fields) (strict : Bool) : Prop where
  | produces (v : Yaml) : Fields.find contract "produces" = some v → isSeq v = false →
      Caught contract dependencies strict
  | producesItem (items : List Yaml) (item : Yaml) :
      Fields.find contract "produces" = some (.seq items) → item ∈ items → isText item = false →
      Caught contract dependencies strict
  | dependencies (v : Yaml) : Fields.find dependencies "dependencies" = some v →
      isSeq v = false → isNull v = false → Caught contract dependencies strict
  | entry (items : List Yaml) (item : Yaml) :
      Fields.find dependencies "dependencies" = some (.seq items) → item ∈ items →
      isMap item = false → Caught contract dependencies strict
  | provider (dep : Fields) (v : Yaml) : dep ∈ entries dependencies →
      Fields.find dep "provider" = some v → isText v = false →
      (truthy v = true ∨ strict = true ∨ named dep = false) → Caught contract dependencies strict

section Files

variable {yaml : Option Loader} {fname : String} {file : FileText}

/-- A raw document with something in it is the file's document. -/
theorem load_of_find (h : Fields.find (rawDocument yaml fname file) key = some v) :
    loadYamlSafe yaml fname file = .ok (rawDocument yaml fname file) := by
  cases hload : loadYamlSafe yaml fname file with
  | ok data => rw [rawDocument, hload]
  | error why =>
    rw [rawDocument, hload] at h
    exact nomatch h

theorem present_of_load (h : loadYamlSafe yaml fname file = .ok data) :
    file.present = true := by
  cases file with
  | missing => cases yaml <;> exact nomatch h
  | unreadable why => rfl
  | text content => rfl

end Files

section Recorded

variable {strict : Bool} {posture : ContractRepoPosture} {found : Findings} {fname : String}
  {file : FileText} {issues : List ValidationIssue} {issue : ValidationIssue}

theorem mem_required_of_mem (h : issue ∈ found.issues) :
    issue ∈ (found.required strict posture fname file issues).issues := by
  cases hpresent : file.present with
  | true =>
    rw [Findings.required, hpresent, if_pos rfl]
    exact List.mem_append_left _ h
  | false =>
    rcases Findings.required_absent posture strict found fname issues hpresent
      with heq | ⟨_, _, heq⟩
    · rw [heq]
      exact h
    · rw [heq]
      exact List.mem_append_left _ h

theorem mem_required (hpresent : file.present = true) (h : issue ∈ issues) :
    issue ∈ (found.required strict posture fname file issues).issues := by
  rw [Findings.required, hpresent, if_pos rfl]
  exact List.mem_append_right _ h

theorem mem_optional_of_mem (h : issue ∈ found.issues) :
    issue ∈ (found.optional strict fname file issues).issues := by
  rw [Findings.optional]
  cases file.present with
  | true => exact List.mem_append_left _ h
  | false => exact h

theorem mem_optional (hpresent : file.present = true) (h : issue ∈ issues) :
    issue ∈ (found.optional strict fname file issues).issues := by
  rw [Findings.optional, hpresent, if_pos rfl]
  exact List.mem_append_right _ h

end Recorded

section Repository

variable {yaml : Option Loader} {repo : Repo} {posture : ContractRepoPosture} {strict : Bool}
  {issue : ValidationIssue} {data : Fields}

/-- What a file's own check finds is reported: `keyhole.yaml`. -/
theorem mem_of_keyhole
    (h : issue ∈ (validateKeyholeYaml "keyhole.yaml"
      (loadYamlSafe yaml "keyhole.yaml" repo.keyhole)).1)
    (hpresent : repo.keyhole.present = true) :
    issue ∈ (fileFindings yaml repo posture strict).issues :=
  mem_optional_of_mem (mem_optional_of_mem (mem_required_of_mem (mem_required hpresent h)))

/-- What a file's own check finds is reported: `governance_contract.yaml`. -/
theorem mem_of_contract
    (h : issue ∈ validateGovernanceContract "governance_contract.yaml"
      (loadYamlSafe yaml "governance_contract.yaml" repo.contract))
    (hpresent : repo.contract.present = true) :
    issue ∈ (fileFindings yaml repo posture strict).issues :=
  mem_optional_of_mem (mem_optional_of_mem (mem_required hpresent h))

/-- What a file's own check finds is reported: `capability_passport.yaml`. -/
theorem mem_of_passport
    (h : issue ∈ validateCapabilityPassport "capability_passport.yaml"
      (loadYamlSafe yaml "capability_passport.yaml" repo.passport))
    (hpresent : repo.passport.present = true) :
    issue ∈ (fileFindings yaml repo posture strict).issues :=
  mem_optional_of_mem (mem_optional hpresent h)

/-- What a file's own check finds is reported: `dependencies.yaml`. -/
theorem mem_of_dependencies
    (h : issue ∈ (validateDependencies "dependencies.yaml"
      (loadYamlSafe yaml "dependencies.yaml" repo.dependencies)).1)
    (hpresent : repo.dependencies.present = true) :
    issue ∈ (fileFindings yaml repo posture strict).issues :=
  mem_optional hpresent h

end Repository

/-! ## The checks of the shapes -/

/-- The checks find an issue that rejects in both modes. -/
def Rejects (issues : List ValidationIssue) : Prop :=
  ∃ issue ∈ issues, ∀ strict, issue.hard strict = true

theorem Rejects.mono {issues more : List ValidationIssue} (h : Rejects issues)
    (hsub : issues ⊆ more) : Rejects more :=
  let ⟨issue, hissue, hhard⟩ := h
  ⟨issue, hsub hissue, hhard⟩

/-- An issue whose reason is not among the warnings. -/
theorem rejects_singleton {issue : ValidationIssue}
    (h : issueWarnReasons.contains issue.reason = false) : Rejects [issue] := by
  refine ⟨issue, List.mem_cons_self, fun strict => ?_⟩
  cases strict with
  | true => rfl
  | false =>
    show (!issueWarnReasons.contains issue.reason) = true
    rw [h]
    rfl

/-- A loop over the elements of a list rejects when it rejects one of them. -/
theorem rejects_zipIdx {each : Yaml × Nat → List ValidationIssue} (hitem : item ∈ items)
    (h : ∀ idx, Rejects (each (item, idx))) : Rejects (items.zipIdx.flatMap each) := by
  obtain ⟨idx, hidx⟩ := List.getElem?_of_mem hitem
  refine (h idx).mono fun issue hissue => List.mem_flatMap.mpr ⟨(item, idx), ?_, hissue⟩
  exact List.mem_zipIdx_iff_getElem?.mpr hidx

theorem rejects_produces
    (h : Rejects (producesIssues fname (some v))) (hfind : Fields.find data "produces" = some v) :
    Rejects (validateGovernanceContract fname (.ok data)) := by
  refine h.mono fun issue hissue => ?_
  rw [← hfind] at hissue
  exact List.mem_append_left _ (List.mem_append_left _ (List.mem_append_right _ hissue))

theorem rejects_produces_shape (fname : String) (h : isSeq v = false) :
    Rejects (producesIssues fname (some v)) := by
  cases v with
  | seq items => exact nomatch h
  | _ =>
    exact rejects_singleton rfl

theorem rejects_produces_item (fname : String) (hitem : item ∈ items) (h : isText item = false) :
    Rejects (producesIssues fname (some (.seq items))) := by
  refine rejects_zipIdx hitem fun idx => ?_
  cases item with
  | str cap => exact nomatch h
  | _ =>
    exact rejects_singleton rfl

theorem rejects_dependencies_shape (fname : String)
    (hseq : isSeq (Fields.get data "dependencies") = false)
    (hnull : isNull (Fields.get data "dependencies") = false) :
    Rejects (validateDependencies fname (.ok data)).1 := by
  suffices h : Rejects (parseDependenciesList fname data).2 from
    h.mono (List.subset_append_left _ _)
  rw [parseDependenciesList]
  cases hv : Fields.get data "dependencies" with
  | null => rw [hv] at hnull; exact nomatch hnull
  | seq items => rw [hv] at hseq; exact nomatch hseq
  | _ =>
    exact rejects_singleton rfl

theorem rejects_entry_shape (fname : String)
    (hfind : Fields.find data "dependencies" = some (.seq items)) (hitem : item ∈ items)
    (h : isMap item = false) : Rejects (validateDependencies fname (.ok data)).1 := by
  suffices hr : Rejects (parseDependenciesList fname data).2 from
    hr.mono (List.subset_append_left _ _)
  rw [parseDependenciesList, get_of_find hfind]
  refine rejects_zipIdx hitem fun idx => ?_
  rw [dependencyShape, h]
  exact rejects_singleton rfl

theorem rejects_checkDependencies {deps : List Fields}
    (hdep : dep ∈ deps) (h : ∀ idx seen, Rejects (checkDependency fname idx seen dep).issues)
    (idx : Nat) (seen : List String) : Rejects (checkDependencies fname idx seen deps).1 := by
  induction deps generalizing idx seen with
  | nil => exact nomatch hdep
  | cons first rest ih =>
    rcases List.mem_cons.mp hdep with rfl | hrest
    · exact (h idx seen).mono (List.subset_append_left _ _)
    · exact (ih hrest _ _).mono (List.subset_append_right _ _)

/-- An entry that names no capability is refused. -/
theorem rejects_unnamed (fname : String) (h : named dep = false) (idx : Nat)
    (seen : List String) : Rejects (checkDependency fname idx seen dep).issues := by
  rw [named] at h
  rw [checkDependency]
  cases hcap : Fields.getOr dep "capability" (.str "") with
  | str cap =>
    rw [hcap] at h
    have hfalsy : truthy (.str cap) = false := h
    show Rejects (if _ then _ else _ : EntryCheck).issues
    rw [if_pos hfalsy]
    exact rejects_singleton rfl
  | _ =>
    by_cases htruthy : truthy (Fields.getOr dep "capability" (.str "")) = false
    · rw [hcap] at htruthy
      show Rejects (if _ then _ else _ : EntryCheck).issues
      rw [if_pos htruthy]
      exact rejects_singleton rfl
    · rw [hcap] at htruthy
      show Rejects (if _ then _ else _ : EntryCheck).issues
      rw [if_neg htruthy]
      exact rejects_singleton rfl

/-- A named entry whose provider is something, but no string, is refused. -/
theorem rejects_odd_provider (fname : String) (hnamed : named dep = true)
    (hfind : Fields.find dep "provider" = some v) (htext : isText v = false)
    (htruthy : truthy v = true) (idx : Nat) (seen : List String) :
    Rejects (checkDependency fname idx seen dep).issues := by
  have hprovider : Rejects (providerField fname (indexed "dependencies" idx) v).1 := by
    rw [providerField, htruthy, htext]
    exact rejects_singleton rfl
  rw [named] at hnamed
  rw [checkDependency, getOr_of_find hfind]
  cases hcap : Fields.getOr dep "capability" (.str "") with
  | str cap =>
    rw [hcap] at hnamed
    have hne : ¬ truthy (.str cap) = false := by
      intro hfalse
      exact nomatch hnamed.symm.trans hfalse
    show Rejects (if _ then _ else _ : EntryCheck).issues
    rw [if_neg hne]
    exact hprovider.mono fun issue hissue =>
      List.mem_append_left _ (List.mem_append_right _ hissue)
  | _ =>
    rw [hcap] at hnamed
    exact nomatch hnamed

theorem elementsOf_seq (items : List Yaml) : elementsOf (.seq items) = items := by
  cases items with
  | nil => rfl
  | cons item rest => rfl

/-- An entry every check of which rejects makes the file's check reject. -/
theorem rejects_of_entry (hdep : dep ∈ entries data)
    (h : ∀ idx seen, Rejects (checkDependency fname idx seen dep).issues) :
    Rejects (validateDependencies fname (.ok data)).1 := by
  cases hv : Fields.get data "dependencies" with
  | null =>
    rw [entries, hv] at hdep
    exact nomatch hdep
  | seq items =>
    rw [entries, hv, elementsOf_seq] at hdep
    have hparsed : (parseDependenciesList fname data).1 = mappings items := by
      rw [parseDependenciesList, hv]
    suffices hr : Rejects (checkDependencies fname 0 []
        (parseDependenciesList fname data).1).1 from hr.mono (List.subset_append_right _ _)
    rw [hparsed]
    exact rejects_checkDependencies hdep h 0 []
  | _ =>
    exact rejects_dependencies_shape fname (by rw [hv]; rfl) (by rw [hv]; rfl)

/-- A named entry has a capability that counts as true. -/
theorem truthy_of_named (h : named dep = true) :
    truthy (Fields.get dep "capability") = true := by
  rw [named] at h
  cases hfind : Fields.find dep "capability" with
  | none =>
    rw [getOr_of_find_none hfind] at h
    exact nomatch h
  | some cap =>
    rw [getOr_of_find hfind] at h
    rw [get_of_find hfind]
    cases cap with
    | str name => exact h
    | _ => exact nomatch h

/-! ## Fail-closed validation -/

section FailClosed

variable (yaml : Option Loader) (repo : Repo) (mode : String) (strict : Bool)

/-- The raw governance contract. -/
def contractOf : Fields := rawDocument yaml "governance_contract.yaml" repo.contract

/-- The raw dependencies. -/
def dependenciesOf : Fields := rawDocument yaml "dependencies.yaml" repo.dependencies

/-- The validation returns, and rejects a `produces` or `dependencies` value of the
    wrong shape. -/
def FailClosed : Prop :=
  ∃ result, runValidation yaml repo mode strict = .ok result
    ∧ (WrongShape (contractOf yaml repo) (dependenciesOf yaml repo) → result.status = .reject)

end FailClosed

section Condemned

variable {yaml : Option Loader} {repo : Repo} {posture : ContractRepoPosture} {strict : Bool}

theorem condemned_of_contract (hfind : Fields.find (contractOf yaml repo) key = some v)
    (h : Rejects (validateGovernanceContract "governance_contract.yaml"
      (.ok (contractOf yaml repo)))) : Condemned yaml repo posture strict := by
  have hload := load_of_find hfind
  obtain ⟨issue, hissue, hhard⟩ := h
  exact .file issue (mem_of_contract (by rw [hload]; exact hissue) (present_of_load hload))
    (hhard strict)

theorem condemned_of_dependencies (hfind : Fields.find (dependenciesOf yaml repo) key = some v)
    (h : Rejects (validateDependencies "dependencies.yaml" (.ok (dependenciesOf yaml repo))).1) :
    Condemned yaml repo posture strict := by
  have hload := load_of_find hfind
  obtain ⟨issue, hissue, hhard⟩ := h
  exact .file issue (mem_of_dependencies (by rw [hload]; exact hissue) (present_of_load hload))
    (hhard strict)

/-- A document that has entries has a `dependencies` key. -/
theorem find_of_entry (h : dep ∈ entries data) :
    ∃ v, Fields.find data "dependencies" = some v := by
  cases hfind : Fields.find data "dependencies" with
  | some v => exact ⟨v, rfl⟩
  | none =>
    have hget : Fields.get data "dependencies" = .null := by rw [Fields.get, hfind]; rfl
    rw [entries, hget] at h
    cases h

/-- What a check looks for, the validation rejects. -/
theorem condemned_of_caught
    (h : Caught (contractOf yaml repo) (dependenciesOf yaml repo) strict) :
    Condemned yaml repo posture strict := by
  cases h with
  | produces v hfind hseq =>
    exact condemned_of_contract hfind (rejects_produces (rejects_produces_shape _ hseq) hfind)
  | producesItem items item hfind hitem htext =>
    exact condemned_of_contract hfind
      (rejects_produces (rejects_produces_item _ hitem htext) hfind)
  | dependencies v hfind hseq hnull =>
    exact condemned_of_dependencies hfind (rejects_dependencies_shape _
      (by rw [get_of_find hfind]; exact hseq) (by rw [get_of_find hfind]; exact hnull))
  | entry items item hfind hitem hmap =>
    exact condemned_of_dependencies hfind (rejects_entry_shape _ hfind hitem hmap)
  | provider dep v hdep hfind htext hlooks =>
    obtain ⟨w, hw⟩ := find_of_entry hdep
    cases hnamed : named dep with
    | false => exact condemned_of_dependencies hw (rejects_of_entry hdep (rejects_unnamed _ hnamed))
    | true =>
      cases htruthy : truthy v with
      | true =>
        exact condemned_of_dependencies hw
          (rejects_of_entry hdep (rejects_odd_provider _ hnamed hfind htext htruthy))
      | false =>
        -- only the strict pass is left, and it finds no provider
        have hstrict : strict = true := by
          rcases hlooks with h | h | h
          · exact nomatch htruthy.symm.trans h
          · exact h
          · exact nomatch hnamed.symm.trans h
        refine .provider dep hstrict hdep (truthy_of_named hnamed) ?_
        rw [providerGiven, get_of_find hfind, orElse, htruthy]
        rfl

end Condemned

/-- Exactly when the validation is fail-closed: on a foreign repository, when there is
    no wrong shape to overlook; otherwise, when the second passes can walk the
    documents and every wrong shape meets a check that looks for it, or something
    else condemns the repository. -/
theorem failClosed_iff (yaml : Option Loader) (repo : Repo) (mode : String) (strict : Bool) :
    FailClosed yaml repo mode strict ↔
      (postureFor mode repo = .foreign
        ∧ ¬ WrongShape (contractOf yaml repo) (dependenciesOf yaml repo))
      ∨ (postureFor mode repo ≠ .foreign
        ∧ Walkable (contractOf yaml repo) (dependenciesOf yaml repo) strict
        ∧ (WrongShape (contractOf yaml repo) (dependenciesOf yaml repo) →
            Caught (contractOf yaml repo) (dependenciesOf yaml repo) strict
              ∨ Condemned yaml repo (postureFor mode repo) strict)) := by
  by_cases hforeign : postureFor mode repo = .foreign
  · have hrun : runValidation yaml repo mode strict = .ok (foreignResult repo mode) := by
      rw [runValidation, if_pos hforeign]
    constructor
    · rintro ⟨result, hresult, hreject⟩
      rw [hrun] at hresult
      cases hresult
      exact .inl ⟨hforeign, fun hshape => nomatch hreject hshape⟩
    · rintro (⟨-, hshape⟩ | ⟨hne, -⟩)
      · exact ⟨_, hrun, fun h => absurd h hshape⟩
      · exact absurd hforeign hne
  · have hrun : runValidation yaml repo mode strict
        = findings yaml repo (postureFor mode repo) strict >>= fun found =>
            pure (gradedResult yaml repo mode strict found) := by
      rw [runValidation, if_neg hforeign]
    constructor
    · rintro ⟨result, hresult, hreject⟩
      rw [hrun] at hresult
      obtain ⟨found, hfound, hgraded⟩ := bind_ok.mp hresult
      cases hgraded
      refine .inr ⟨hforeign, (returns_findings _ _ _ _).mp ⟨found, hfound⟩, fun hshape => ?_⟩
      exact .inr ((status_reject_iff hfound).mp (hreject hshape))
    · rintro (⟨hposture, -⟩ | ⟨-, hwalkable, hshape⟩)
      · exact absurd hposture hforeign
      · obtain ⟨found, hfound⟩ := (returns_findings _ _ _ _).mpr hwalkable
        refine ⟨_, by rw [hrun, hfound]; rfl, fun h => ?_⟩
        have hcondemned : Condemned yaml repo (postureFor mode repo) strict :=
          (hshape h).elim condemned_of_caught id
        exact (status_reject_iff hfound).mpr hcondemned

/-- A repository that produces a number. -/
def numberRepo : Repo where
  path := "/work/demo"
  name := "demo"
  keyhole := .text "repo: demo\nschema_version: 1\n"
  contract := .text "repo: demo\nproduces: 5\n"
  passport := .missing
  dependencies := .missing
  manifest _ := false

/-- What the loader makes of its two files. -/
def numberLoad (content : String) : Except String Yaml :=
  if content = "repo: demo\nproduces: 5\n" then
    .ok (.map [(.str "repo", .str "demo"), (.str "produces", .int 5)])
  else .ok (.map [(.str "repo", .str "demo"), (.str "schema_version", .int 1)])

/-- `produces: 5` is not rejected: the validation ends with a `TypeError`. -/
theorem numberRepo_raises : ¬ FailClosed (some numberLoad) numberRepo "auto" false := by
  have hrun : runValidation (some numberLoad) numberRepo "auto" false
      = .error (.typeError "'int' object is not iterable") := rfl
  rintro ⟨result, hresult, -⟩
  exact nomatch hrun.symm.trans hresult

end KeyholeTotality
