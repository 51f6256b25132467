import Keyhole.JsonLiterals
import Keyhole.PassportGeneration

/-!
# What the passport digest identifies

`compute_passport_digest` hashes the sorted-key JSON text of what a passport declares.

* `basisText`, `basis_agree`: the text, and that it determines what is declared;
* `digest_eq_iff`: digests are equal exactly for the same declarations, capabilities in any
  order;
* `validateCapabilities_perm`, `malformed_reported`, `duplicate_reported`: the loop over
  `produces` does not depend on the order of a list it accepts, and reports what it refuses;
* `digest_identifies`: the two together. -/

namespace KeyholeDigest

open KeyholeJson KeyholePassport KeyholeNamespace KeyholeValidation
open KeyholeYaml (Yaml Fields)

/-! ## The text behind the digest -/

/-- What a passport declares. -/
structure Declaration where
  schemaVersion : String
  repoName : String
  repoId : String
  owner : String
  parentRepo : String
  parentPassportDigest : String
  capabilities : List String

/-- `compute_passport_digest` of a declaration. -/
def digestOf (sha256 : String → String) (d : Declaration) : String :=
  computePassportDigest sha256 d.repoName d.capabilities d.owner d.repoId d.parentRepo
    d.parentPassportDigest d.schemaVersion

/-- The capabilities in order. -/
def Declaration.sorted (d : Declaration) : List String := d.capabilities.insertionSort (· ≤ ·)

/-- A key of an object, behind what stands before it. -/
def keyText (before key : String) : List Char := before.toList ++ (literal key ++ ":".toList)

/-- The canonical text, keys in order. -/
def basisText (d : Declaration) : List Char :=
  (keyText "\x7b" "capabilities" ++ "[".toList) ++ (literals d.sorted ++ ']' ::
    ((keyText "," "lineage" ++ keyText "\x7b" "parent_passport_digest") ++
      (literal d.parentPassportDigest ++
    (keyText "," "parent_repo" ++ (literal d.parentRepo ++
    (("\x7d".toList ++ keyText "," "repo" ++ keyText "\x7b" "owner") ++ (literal d.owner ++
    (keyText "," "repo_id" ++ (literal d.repoId ++
    (keyText "," "repo_name" ++ (literal d.repoName ++
    (("\x7d".toList ++ keyText "," "schema_version") ++ (literal d.schemaVersion ++
      "\x7d".toList)))))))))))))

/-- The object that is hashed. -/
def basis (d : Declaration) : Json :=
  .obj [
    ("schema_version", .str d.schemaVersion),
    ("repo", .obj [("owner", .str d.owner), ("repo_id", .str d.repoId),
      ("repo_name", .str d.repoName)]),
    ("capabilities", .arr (d.sorted.map Json.str)),
    ("lineage", .obj [("parent_passport_digest", .str d.parentPassportDigest),
      ("parent_repo", .str d.parentRepo)])]

theorem digestOf_eq (sha256 : String → String) (d : Declaration) :
    digestOf sha256 d = "sha256:" ++ sha256 (dumps compactSeparators (basis d)) := rfl

theorem dumpItems_str (sep : Separators) (texts : List String) :
    dumpItems sep (texts.map Json.str) = texts.map dumpStr := by
  induction texts with
  | nil => rfl
  | cons s rest ih =>
    show dumps sep (.str s) :: dumpItems sep (rest.map Json.str) = dumpStr s :: rest.map dumpStr
    rw [ih]
    rfl

theorem sort_basis (a b c d : String) :
    [("schema_version", a), ("repo", b), ("capabilities", c), ("lineage", d)].mergeSort
      (fun x y => decide (x.1 ≤ y.1)) =
    [("capabilities", c), ("lineage", d), ("repo", b), ("schema_version", a)] := by
  simp [List.mergeSort, List.MergeSort.Internal.splitInTwo]

theorem sort_repo (a b c : String) :
    [("owner", a), ("repo_id", b), ("repo_name", c)].mergeSort
      (fun x y => decide (x.1 ≤ y.1)) = [("owner", a), ("repo_id", b), ("repo_name", c)] := by
  simp [List.mergeSort, List.MergeSort.Internal.splitInTwo]

theorem sort_lineage (a b : String) :
    [("parent_passport_digest", a), ("parent_repo", b)].mergeSort
      (fun x y => decide (x.1 ≤ y.1)) =
    [("parent_passport_digest", a), ("parent_repo", b)] := by
  simp [List.mergeSort, List.MergeSort.Internal.splitInTwo]

theorem toList_dumps_basis (d : Declaration) :
    (dumps compactSeparators (basis d)).toList = basisText d := by
  rw [basis]
  simp only [dumps, dumpFields, sort_basis, sort_repo, sort_lineage, dumpItems_str, List.map_cons,
    List.map_nil, join, compactSeparators, String.toList_append, toList_dumpStr,
    toList_join_dumpStr]
  have hbracket : "]".toList = [']'] := rfl
  simp only [basisText, keyText, hbracket, List.append_assoc, List.cons_append, List.nil_append]

/-- The text determines the declaration, up to the order of the capabilities. -/
theorem basis_agree {d d' : Declaration} (h : basisText d = basisText d') :
    d.schemaVersion = d'.schemaVersion ∧ d.repoName = d'.repoName ∧ d.repoId = d'.repoId ∧
      d.owner = d'.owner ∧ d.parentRepo = d'.parentRepo ∧
      d.parentPassportDigest = d'.parentPassportDigest ∧ d.sorted = d'.sorted := by
  obtain ⟨hcapabilities, h⟩ := literals_agree (List.append_cancel_left h)
  obtain ⟨hdigest, h⟩ := literal_agree (List.append_cancel_left h)
  obtain ⟨hparent, h⟩ := literal_agree (List.append_cancel_left h)
  obtain ⟨howner, h⟩ := literal_agree (List.append_cancel_left h)
  obtain ⟨hid, h⟩ := literal_agree (List.append_cancel_left h)
  obtain ⟨hname, h⟩ := literal_agree (List.append_cancel_left h)
  obtain ⟨hschema, -⟩ := literal_agree (List.append_cancel_left h)
  exact ⟨hschema, hname, hid, howner, hparent, hdigest, hcapabilities⟩

/-- Sorted lists agree exactly when the lists are permutations of each other. -/
theorem sorted_agree_iff (names names' : List String) :
    names.insertionSort (· ≤ ·) = names'.insertionSort (· ≤ ·) ↔ names.Perm names' := by
  constructor
  · intro h
    exact (names.perm_insertionSort (· ≤ ·)).symm.trans
      (h ▸ names'.perm_insertionSort (· ≤ ·))
  · intro h
    apply List.Perm.eq_of_pairwise
    · intro a b _ _ hab hba
      exact String.le_antisymm hab hba
    · exact names.pairwise_insertionSort (· ≤ ·)
    · exact names'.pairwise_insertionSort (· ≤ ·)
    · exact (names.perm_insertionSort (· ≤ ·)).trans
        (h.trans (names'.perm_insertionSort (· ≤ ·)).symm)

/-- The same declaration, capabilities in any order. -/
structure SameDeclaration (d d' : Declaration) : Prop where
  schemaVersion : d.schemaVersion = d'.schemaVersion
  repoName : d.repoName = d'.repoName
  repoId : d.repoId = d'.repoId
  owner : d.owner = d'.owner
  parentRepo : d.parentRepo = d'.parentRepo
  parentPassportDigest : d.parentPassportDigest = d'.parentPassportDigest
  capabilities : d.capabilities.Perm d'.capabilities

/-- Equal digests stand for the same declaration, when the hash is free of collisions. -/
theorem digestOf_agree_iff {sha256 : String → String} (hfree : Function.Injective sha256)
    (d d' : Declaration) : digestOf sha256 d = digestOf sha256 d' ↔ SameDeclaration d d' := by
  rw [digestOf_eq, digestOf_eq]
  constructor
  · intro h
    have htext : dumps compactSeparators (basis d) = dumps compactSeparators (basis d') :=
      hfree ((String.append_right_inj "sha256:").mp h)
    have hbasis : basisText d = basisText d' := by
      rw [← toList_dumps_basis, ← toList_dumps_basis, htext]
    obtain ⟨hschema, hname, hid, howner, hparent, hdigest, hsorted⟩ := basis_agree hbasis
    exact ⟨hschema, hname, hid, howner, hparent, hdigest, (sorted_agree_iff _ _).mp hsorted⟩
  · intro h
    have hsorted : d.sorted = d'.sorted := (sorted_agree_iff _ _).mpr h.capabilities
    have hsame : basis d = basis d' := by
      rw [basis, basis, h.schemaVersion, h.repoName, h.repoId, h.owner, h.parentRepo,
        h.parentPassportDigest, hsorted]
    rw [hsame]

/-! ## The loop over `produces` -/

/-- A string that is a valid capability name. -/
def WellNamed (item : Yaml) : Prop :=
  ∃ cap, item = .str cap ∧ (validateCapabilityName cap).valid = true

/-- The names the loop has declared so far. -/
def declaredNames (found : Declared) : List String := found.entries.map CapabilityEntry.name

/-- The entry of a name. -/
def entryOf (cap : String) : CapabilityEntry := { name := cap }

section

variable {fileLabel : String} {found : Declared} {item : Yaml} {idx : Nat} {cap : String}

theorem declare_malformed (fileLabel : String) (found : Declared) (idx : Nat)
    (h : ¬ WellNamed item) :
    ∃ more, declare fileLabel found (item, idx) = { found with issues := found.issues ++
      [producesIssue fileLabel idx .invalidCapabilityName more] } := by
  cases item with
  | str cap =>
    have hinvalid : (validateCapabilityName cap).valid = false :=
      Bool.eq_false_iff.mpr fun hvalid => h ⟨cap, rfl, hvalid⟩
    refine ⟨if (validateCapabilityName cap).suggestion = "" then []
      else ["Did you mean: " ++ (validateCapabilityName cap).suggestion ++ "?"], ?_⟩
    show (if (validateCapabilityName cap).valid = false then _ else _) = _
    rw [if_pos hinvalid]
  | _ =>
    exact ⟨[], rfl⟩

theorem declare_duplicate (h : (validateCapabilityName cap).valid = true)
    (hseen : cap ∈ declaredNames found) :
    declare fileLabel found (.str cap, idx) = { found with issues := found.issues ++
      [producesIssue fileLabel idx .duplicateCapabilityDeclaration []] } := by
  show (if (validateCapabilityName cap).valid = false then _ else _) = _
  rw [if_neg (by rw [h]; exact nofun)]
  exact if_pos (List.contains_iff_mem.mpr hseen)

theorem declare_new (h : (validateCapabilityName cap).valid = true)
    (hnew : cap ∉ declaredNames found) :
    declare fileLabel found (.str cap, idx) =
      { found with entries := found.entries ++ [entryOf cap] } := by
  show (if (validateCapabilityName cap).valid = false then _ else _) = _
  rw [if_neg (by rw [h]; exact nofun)]
  exact if_neg fun hseen => hnew (List.contains_iff_mem.mp hseen)

/-- What an element can do to the loop's state. -/
theorem declare_cases (fileLabel : String) (found : Declared) (item : Yaml) (idx : Nat) :
    (¬ WellNamed item ∧ ∃ more, declare fileLabel found (item, idx) = { found with
      issues := found.issues ++ [producesIssue fileLabel idx .invalidCapabilityName more] }) ∨
    ∃ cap, item = .str cap ∧ (validateCapabilityName cap).valid = true ∧
      ((cap ∈ declaredNames found ∧ declare fileLabel found (item, idx) = { found with
        issues := found.issues ++ [producesIssue fileLabel idx .duplicateCapabilityDeclaration []] }) ∨
      (cap ∉ declaredNames found ∧ declare fileLabel found (item, idx) =
        { found with entries := found.entries ++ [entryOf cap] })) := by
  by_cases hnamed : WellNamed item
  · obtain ⟨cap, rfl, hvalid⟩ := hnamed
    refine .inr ⟨cap, rfl, hvalid, ?_⟩
    by_cases hseen : cap ∈ declaredNames found
    · exact .inl ⟨hseen, declare_duplicate hvalid hseen⟩
    · exact .inr ⟨hseen, declare_new hvalid hseen⟩
  · exact .inl ⟨hnamed, declare_malformed fileLabel found idx hnamed⟩

end

/-- The loop from an index on. -/
def declareAll (fileLabel : String) (start : Nat) (found : Declared) (items : List Yaml) :
    Declared :=
  (items.zipIdx start).foldl (declare fileLabel) found

section

variable {fileLabel : String}

theorem declareAll_cons (start : Nat) (found : Declared) (item : Yaml) (rest : List Yaml) :
    declareAll fileLabel start found (item :: rest) =
      declareAll fileLabel (start + 1) (declare fileLabel found (item, start)) rest := rfl

theorem declareAll_append (items more : List Yaml) : ∀ (start : Nat) (found : Declared),
    declareAll fileLabel start found (items ++ more) =
      declareAll fileLabel (start + items.length) (declareAll fileLabel start found items) more := by
  induction items with
  | nil =>
    intro start found
    rfl
  | cons item rest ih =>
    intro start found
    rw [List.cons_append, declareAll_cons, declareAll_cons, ih, List.length_cons,
      show start + 1 + rest.length = start + (rest.length + 1) by omega]

/-- The loop keeps the issues it has. -/
theorem declareAll_keeps {issue : PassportIssue} {items : List Yaml} :
    ∀ {start : Nat} {found : Declared}, issue ∈ found.issues →
      issue ∈ (declareAll fileLabel start found items).issues := by
  induction items with
  | nil =>
    intro start found h
    exact h
  | cons item rest ih =>
    intro start found h
    rw [declareAll_cons]
    apply ih
    rcases declare_cases fileLabel found item start with ⟨-, more, heq⟩ |
      ⟨cap, -, -, ⟨-, heq⟩ | ⟨-, heq⟩⟩
    · rw [heq]
      exact List.mem_append_left _ h
    · rw [heq]
      exact List.mem_append_left _ h
    · rw [heq]
      exact h

/-- The loop has declared the valid names it met. -/
theorem mem_declaredNames {cap : String} {items : List Yaml} :
    ∀ {start : Nat} {found : Declared},
      cap ∈ declaredNames (declareAll fileLabel start found items) ↔
        cap ∈ declaredNames found ∨
          ((validateCapabilityName cap).valid = true ∧ Yaml.str cap ∈ items) := by
  induction items with
  | nil =>
    intro start found
    exact ⟨.inl, fun h => h.elim id fun h => nomatch h.2⟩
  | cons item rest ih =>
    intro start found
    rw [declareAll_cons, ih]
    rcases declare_cases fileLabel found item start with ⟨hmalformed, more, heq⟩ |
      ⟨cap', rfl, hvalid, ⟨hseen, heq⟩ | ⟨hnew, heq⟩⟩
    · rw [heq]
      apply or_congr Iff.rfl
      refine and_congr_right fun hvalid => ?_
      rw [List.mem_cons]
      exact (or_iff_right fun h => hmalformed ⟨cap, h.symm, hvalid⟩).symm
    · rw [heq, List.mem_cons]
      constructor
      · rintro (h | ⟨hcap, hrest⟩)
        · exact .inl h
        · exact .inr ⟨hcap, .inr hrest⟩
      · rintro (h | ⟨hcap, hhead | hrest⟩)
        · exact .inl h
        · rw [Yaml.str.inj hhead]
          exact .inl hseen
        · exact .inr ⟨hcap, hrest⟩
    · rw [heq, List.mem_cons]
      have hmore : cap ∈ declaredNames { found with entries := found.entries ++ [entryOf cap'] } ↔
          cap ∈ declaredNames found ∨ cap = cap' := by
        show cap ∈ (found.entries ++ [entryOf cap']).map CapabilityEntry.name ↔ _
        rw [List.map_append, List.mem_append]
        exact or_congr Iff.rfl List.mem_singleton
      rw [hmore]
      constructor
      · rintro ((h | rfl) | ⟨hcap, hrest⟩)
        · exact .inl h
        · exact .inr ⟨hvalid, .inl rfl⟩
        · exact .inr ⟨hcap, .inr hrest⟩
      · rintro (h | ⟨hcap, hhead | hrest⟩)
        · exact .inl (.inl h)
        · exact .inl (.inr (Yaml.str.inj hhead))
        · exact .inr ⟨hcap, hrest⟩

/-- A list without an issue is a list of valid names, each once, and these are its entries. -/
theorem names_of_accepted {items : List Yaml} : ∀ {start : Nat} {found : Declared},
    (declareAll fileLabel start found items).issues = [] →
    ∃ names : List String, items = names.map Yaml.str ∧
      (declareAll fileLabel start found items).entries = found.entries ++ names.map entryOf ∧
      (∀ name ∈ names, (validateCapabilityName name).valid = true) ∧
      (∀ name ∈ names, name ∉ declaredNames found) ∧ names.Nodup := by
  induction items with
  | nil =>
    intro start found _
    exact ⟨[], rfl, (List.append_nil _).symm, nofun, nofun,
      List.nodup_nil⟩
  | cons item rest ih =>
    intro start found h
    rw [declareAll_cons] at h ⊢
    have hstep : ∀ issue, declare fileLabel found (item, start) =
        { found with issues := found.issues ++ [issue] } → False := by
      intro issue heq
      have hkept : issue ∈ (declareAll fileLabel (start + 1)
          (declare fileLabel found (item, start)) rest).issues := by
        apply declareAll_keeps
        rw [heq]
        exact List.mem_append_right _ List.mem_cons_self
      rw [h] at hkept
      exact nomatch hkept
    rcases declare_cases fileLabel found item start with ⟨-, more, heq⟩ |
      ⟨cap, rfl, hvalid, ⟨-, heq⟩ | ⟨hnew, heq⟩⟩
    · exact (hstep _ heq).elim
    · exact (hstep _ heq).elim
    · obtain ⟨names, rfl, hentries, hnames, hfresh, hnodup⟩ := ih h
      have hdeclared : declaredNames (declare fileLabel found (.str cap, start)) =
          declaredNames found ++ [cap] := by
        rw [heq]
        exact List.map_append
      refine ⟨cap :: names, rfl, ?_, ?_, ?_, ?_⟩
      · rw [hentries, heq, List.append_assoc]
        rfl
      · intro name hname
        rcases List.mem_cons.mp hname with rfl | hname
        · exact hvalid
        · exact hnames name hname
      · intro name hname
        rcases List.mem_cons.mp hname with rfl | hname
        · exact hnew
        · intro hmem
          apply hfresh name hname
          rw [hdeclared]
          exact List.mem_append_left _ hmem
      · rw [List.nodup_cons]
        refine ⟨fun hmem => hfresh cap hmem ?_, hnodup⟩
        rw [hdeclared]
        exact List.mem_append_right _ List.mem_cons_self

/-- Valid names, each once, are accepted. -/
theorem accepted_of_names {names : List String} : ∀ {start : Nat} {found : Declared},
    (∀ name ∈ names, (validateCapabilityName name).valid = true) →
    (∀ name ∈ names, name ∉ declaredNames found) → names.Nodup →
    declareAll fileLabel start found (names.map Yaml.str) =
      { found with entries := found.entries ++ names.map entryOf } := by
  induction names with
  | nil =>
    intro start found _ _ _
    show found = { found with entries := found.entries ++ [] }
    rw [List.append_nil]
  | cons name rest ih =>
    intro start found hvalid hfresh hnodup
    obtain ⟨hnew, hrest⟩ := List.nodup_cons.mp hnodup
    rw [List.map_cons, declareAll_cons,
      declare_new (hvalid name List.mem_cons_self) (hfresh name List.mem_cons_self), ih]
    · rw [List.append_assoc]
      rfl
    · exact fun other hother => hvalid other (List.mem_cons_of_mem _ hother)
    · intro other hother hmem
      have hdeclared : declaredNames { found with entries := found.entries ++ [entryOf name] } =
          declaredNames found ++ [name] := List.map_append
      rw [hdeclared] at hmem
      rcases List.mem_append.mp hmem with hmem | hmem
      · exact hfresh other (List.mem_cons_of_mem _ hother) hmem
      · exact hnew (List.mem_singleton.mp hmem ▸ hother)
    · exact hrest

end

/-! ## Order, duplicates and malformed names -/

section

variable {fileLabel : String} {items items' : List Yaml}

theorem validateCapabilities_seq (fileLabel : String) (items : List Yaml) :
    validateCapabilities fileLabel (.seq items) =
      { declareAll fileLabel 0 {} items with
        entries := (declareAll fileLabel 0 {} items).entries.insertionSort
          fun a b => a.name ≤ b.name } := rfl

/-- The text of a string value. -/
def textOf : Yaml → Option String
  | .str s => some s
  | _ => none

theorem filterMap_textOf (names : List String) : (names.map Yaml.str).filterMap textOf = names := by
  induction names with
  | nil => rfl
  | cons name rest ih =>
    show name :: (rest.map Yaml.str).filterMap textOf = name :: rest
    rw [ih]

/-- A reordering of a list of strings is the list of the reordered strings. -/
theorem names_of_perm {names : List String} (h : items'.Perm (names.map Yaml.str)) :
    ∃ names' : List String, items' = names'.map Yaml.str ∧ names'.Perm names := by
  refine ⟨items'.filterMap textOf, ?_, ?_⟩
  · have hall : ∀ item ∈ items', ∃ s, item = Yaml.str s := by
      intro item hitem
      obtain ⟨s, -, hs⟩ := List.mem_map.mp (h.mem_iff.mp hitem)
      exact ⟨s, hs.symm⟩
    clear h
    induction items' with
    | nil => rfl
    | cons item rest ih =>
      obtain ⟨s, rfl⟩ := hall item List.mem_cons_self
      show _ = Yaml.str s :: (rest.filterMap textOf).map Yaml.str
      rw [← ih fun other hother => hall other (List.mem_cons_of_mem _ hother)]
  · have hperm := h.filterMap textOf
    rw [filterMap_textOf] at hperm
    exact hperm

theorem sort_entries (names : List String) :
    (names.map entryOf).insertionSort (fun a b => a.name ≤ b.name) =
      (names.insertionSort (· ≤ ·)).map entryOf :=
  (List.map_insertionSort _ _ entryOf names fun _ _ _ _ => Iff.rfl).symm

/-- The loop does not depend on the order of a list it accepts. -/
theorem validateCapabilities_perm (hperm : items'.Perm items)
    (h : (validateCapabilities fileLabel (.seq items)).issues = []) :
    validateCapabilities fileLabel (.seq items') = validateCapabilities fileLabel (.seq items) := by
  have haccepted : (declareAll fileLabel 0 {} items).issues = [] := h
  obtain ⟨names, rfl, -, hvalid, -, hnodup⟩ := names_of_accepted haccepted
  obtain ⟨names', rfl, hnames⟩ := names_of_perm hperm
  have hfresh : ∀ names : List String, ∀ name ∈ names, name ∉ declaredNames {} :=
    nofun
  rw [validateCapabilities_seq, validateCapabilities_seq,
    accepted_of_names hvalid (hfresh names) hnodup,
    accepted_of_names (fun name hname => hvalid name (hnames.mem_iff.mp hname)) (hfresh names')
      (hnames.nodup_iff.mpr hnodup)]
  show ({ issues := [], entries := (names'.map entryOf).insertionSort _ } : Declared) =
    { issues := [], entries := (names.map entryOf).insertionSort _ }
  rw [sort_entries, sort_entries, (sorted_agree_iff names' names).mpr hnames]

theorem split_at_index {item : Yaml} {idx : Nat} (h : items[idx]? = some item) :
    ∃ before after, items = before ++ item :: after ∧ before.length = idx := by
  obtain ⟨hlt, hget⟩ := List.getElem?_eq_some_iff.mp h
  refine ⟨items.take idx, items.drop (idx + 1), ?_, ?_⟩
  · rw [← hget, List.getElem_cons_drop hlt, List.take_append_drop]
  · rw [List.length_take]
    omega

/-- What an element adds to the issues stays. -/
theorem reported {before after : List Yaml} {item : Yaml} {issue : PassportIssue}
    (h : issue ∈ (declare fileLabel (declareAll fileLabel 0 {} before) (item, before.length)).issues) :
    issue ∈ (validateCapabilities fileLabel (.seq (before ++ item :: after))).issues := by
  show issue ∈ (declareAll fileLabel 0 {} (before ++ item :: after)).issues
  rw [declareAll_append, declareAll_cons, Nat.zero_add]
  exact declareAll_keeps h

/-- A malformed name is reported at its index. -/
theorem malformed_reported {item : Yaml} {idx : Nat} (h : items[idx]? = some item)
    (hmalformed : ¬ WellNamed item) :
    ∃ issue ∈ (validateCapabilities fileLabel (.seq items)).issues,
      issue.field = indexed "produces" idx ∧ issue.reason = .invalidCapabilityName := by
  obtain ⟨before, after, rfl, rfl⟩ := split_at_index h
  obtain ⟨more, heq⟩ := declare_malformed fileLabel (declareAll fileLabel 0 {} before)
    before.length hmalformed
  refine ⟨producesIssue fileLabel before.length .invalidCapabilityName more, reported ?_, rfl, rfl⟩
  rw [heq]
  exact List.mem_append_right _ List.mem_cons_self

/-- A valid name that stands before is reported as a duplicate at its index. -/
theorem duplicate_reported {cap : String} {earlier idx : Nat} (h : items[idx]? = some (.str cap))
    (hvalid : (validateCapabilityName cap).valid = true) (hlt : earlier < idx)
    (hearlier : items[earlier]? = some (.str cap)) :
    ∃ issue ∈ (validateCapabilities fileLabel (.seq items)).issues,
      issue.field = indexed "produces" idx ∧ issue.reason = .duplicateCapabilityDeclaration := by
  obtain ⟨before, after, rfl, rfl⟩ := split_at_index h
  have hmem : Yaml.str cap ∈ before := by
    rw [List.getElem?_append_left hlt] at hearlier
    exact List.mem_of_getElem? hearlier
  have hseen : cap ∈ declaredNames (declareAll fileLabel 0 {} before) :=
    mem_declaredNames.mpr (.inr ⟨hvalid, hmem⟩)
  refine ⟨producesIssue fileLabel before.length .duplicateCapabilityDeclaration [], reported ?_,
    rfl, rfl⟩
  rw [declare_duplicate hvalid hseen]
  exact List.mem_append_right _ List.mem_cons_self

end

/-- **The digest identifies declared content and nothing else.**  Digests agree exactly for the
    same declarations, capabilities in any order; a list of capabilities that is accepted has the
    same entries and the same passport digest in every order; and what is malformed or declared
    twice is reported where it stands. -/
theorem digest_identifies {sha256 : String → String} (hfree : Function.Injective sha256) :
    (∀ d d', digestOf sha256 d = digestOf sha256 d' ↔ SameDeclaration d d') ∧
    (∀ fileLabel items items', items'.Perm items →
      (validateCapabilities fileLabel (.seq items)).issues = [] →
      validateCapabilities fileLabel (.seq items') = validateCapabilities fileLabel (.seq items) ∧
      ∀ (env : PassportEnv) name owner (contract contract' : Fields),
        (∀ key, key ≠ "produces" →
          Fields.getOr contract' key (.str "") = Fields.getOr contract key (.str "")) →
        (artifactOf env name owner (validateCapabilities fileLabel (.seq items')).entries
          contract').digest =
        (artifactOf env name owner (validateCapabilities fileLabel (.seq items)).entries
          contract).digest) ∧
    (∀ fileLabel items idx item, items[idx]? = some item → ¬ WellNamed item →
      ∃ issue ∈ (validateCapabilities fileLabel (.seq items)).issues,
        issue.field = indexed "produces" idx ∧ issue.reason = .invalidCapabilityName) ∧
    (∀ fileLabel items earlier idx cap, items[idx]? = some (.str cap) →
      (validateCapabilityName cap).valid = true → earlier < idx →
      items[earlier]? = some (.str cap) →
      ∃ issue ∈ (validateCapabilities fileLabel (.seq items)).issues,
        issue.field = indexed "produces" idx ∧
          issue.reason = .duplicateCapabilityDeclaration) := by
  refine ⟨digestOf_agree_iff hfree, ?_, fun _ _ _ _ => malformed_reported,
    fun _ _ _ _ _ h hvalid hlt => duplicate_reported h hvalid hlt⟩
  intro fileLabel items items' hperm haccepted
  have hsame := validateCapabilities_perm hperm haccepted
  refine ⟨hsame, ?_⟩
  intro env name owner contract contract' hkeys
  rw [hsame]
  show computePassportDigest _ _ _ _ _ _ _ _ = computePassportDigest _ _ _ _ _ _ _ _
  rw [hkeys "parent_repo" (by decide), hkeys "parent_passport_digest" (by decide)]

theorem digest_identifies_id :
    Function.Injective (id : String → String) ∧
    ∀ d d', digestOf id d = digestOf id d' ↔ SameDeclaration d d' :=
  ⟨Function.injective_id, (digest_identifies Function.injective_id).1⟩

end KeyholeDigest
