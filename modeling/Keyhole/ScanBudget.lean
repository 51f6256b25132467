import Keyhole.ScanPruning

/-!
# The order of a listing and the budget of a scan

  - `Reordered`: two trees that list the same entries in other orders, at every depth.
  - `Reordered.visits`: their walks take the same turns, since each level is sorted and no
    level lists a name twice.  The greedy budget then leaves out the same files.
  - `Balanced`: what a ledger satisfies after any number of files.
  - `scan_reproducible_within_budget`: a scan does not depend on the order of the listings,
    and what it includes stays within the budget. -/

namespace KeyholeScan

open KeyholeNamespace (Text)

/-! ## Listings in another order -/

/-- One entry of a listing. -/
inductive Item
  | file (name : Text) (size : Option Nat)
  | dir (name : Text) (inside : Entries)
  | link (name : Text)

/-- The entry before the others. -/
def Item.cons (rest : Entries) : Item → Entries
  | .file name size => .file name size rest
  | .dir name inside => .dir name inside rest
  | .link name => .link name rest

/-- The same tree, listed in another order. -/
inductive Reordered : Entries → Entries → Prop
  | nil : Reordered .nil .nil
  | file (name : Text) (size : Option Nat) {rest rest' : Entries} :
      Reordered rest rest' → Reordered (.file name size rest) (.file name size rest')
  | dir (name : Text) {inside inside' rest rest' : Entries} :
      Reordered inside inside' → Reordered rest rest' →
      Reordered (.dir name inside rest) (.dir name inside' rest')
  | link (name : Text) {rest rest' : Entries} :
      Reordered rest rest' → Reordered (.link name rest) (.link name rest')
  | swap (a b : Item) (rest : Entries) :
      Reordered (a.cons (b.cons rest)) (b.cons (a.cons rest))
  | trans {tree tree' tree'' : Entries} :
      Reordered tree tree' → Reordered tree' tree'' → Reordered tree tree''

section Cons

variable (a : Item) (rest : Entries)

theorem files_cons : (a.cons rest).files = (a.cons .nil).files ++ rest.files := by
  cases a with
  | file name size => rfl
  | dir name inside => rfl
  | link name => rfl

theorem names_cons : (a.cons rest).names = (a.cons .nil).names ++ rest.names := by
  cases a with
  | file name size => rfl
  | dir name inside => rfl
  | link name => rfl

theorem subvisits_cons (rules : List Text) (relDir : Text) :
    subvisits rules relDir (a.cons rest) =
      subvisits rules relDir (a.cons .nil) ++ subvisits rules relDir rest := by
  cases a with
  | file name size => rfl
  | dir name inside =>
    show subvisits rules relDir (.dir name inside rest) =
      subvisits rules relDir (.dir name inside .nil) ++ subvisits rules relDir rest
    rw [subvisits, subvisits]
    by_cases hpruned : pruned rules (joinRel relDir name) = true
    · rw [if_pos hpruned, if_pos hpruned]
      rfl
    · rw [if_neg hpruned, if_neg hpruned]
      rfl
  | link name =>
    show subvisits rules relDir (.link name rest) =
      subvisits rules relDir (.link name .nil) ++ subvisits rules relDir rest
    rw [subvisits, subvisits]
    by_cases hpruned : pruned rules (joinRel relDir name) = true
    · rw [if_pos hpruned, if_pos hpruned]
      rfl
    · rw [if_neg hpruned, if_neg hpruned]
      rfl

theorem proper_cons :
    (a.cons rest).Proper ↔ (a.cons .nil).Proper ∧
      (∀ name ∈ (a.cons .nil).names, name ∉ rest.names) ∧ rest.Proper := by
  have hone : ∀ name : Text, (∀ other ∈ [name], other ∉ rest.names) ↔ name ∉ rest.names := by
    intro name
    constructor
    · intro h
      exact h name List.mem_cons_self
    · intro h other hother
      rw [List.mem_singleton.mp hother]
      exact h
  cases a with
  | file name size =>
    constructor
    · intro ⟨hname, hnew, hrest⟩
      exact ⟨⟨hname, nofun, trivial⟩, (hone name).mpr hnew, hrest⟩
    · intro ⟨⟨hname, _, _⟩, hnew, hrest⟩
      exact ⟨hname, (hone name).mp hnew, hrest⟩
  | dir name inside =>
    constructor
    · intro ⟨hname, hnew, hinside, hrest⟩
      exact ⟨⟨hname, nofun, hinside, trivial⟩, (hone name).mpr hnew, hrest⟩
    · intro ⟨⟨hname, _, hinside, _⟩, hnew, hrest⟩
      exact ⟨hname, (hone name).mp hnew, hinside, hrest⟩
  | link name =>
    constructor
    · intro ⟨hname, hnew, hrest⟩
      exact ⟨⟨hname, nofun, trivial⟩, (hone name).mpr hnew, hrest⟩
    · intro ⟨⟨hname, _, _⟩, hnew, hrest⟩
      exact ⟨hname, (hone name).mp hnew, hrest⟩

end Cons

theorem Entries.Proper.nodup {tree : Entries} (h : tree.Proper) : tree.names.Nodup := by
  induction tree with
  | nil => exact List.nodup_nil
  | file name size rest ih => exact List.nodup_cons.mpr ⟨h.2.1, ih h.2.2⟩
  | dir name inside rest _ ih => exact List.nodup_cons.mpr ⟨h.2.1, ih h.2.2.2⟩
  | link name rest ih => exact List.nodup_cons.mpr ⟨h.2.1, ih h.2.2⟩

theorem files_names (tree : Entries) : (tree.files.map Prod.fst).Sublist tree.names := by
  induction tree with
  | nil => exact List.Sublist.slnil
  | file name size rest ih => exact ih.cons_cons name
  | dir name inside rest _ ih => exact ih.cons name
  | link name rest ih => exact ih.cons name

theorem subvisits_names (rules : List Text) (relDir : Text) (tree : Entries) :
    ((subvisits rules relDir tree).map Prod.fst).Sublist tree.names := by
  induction tree with
  | nil => exact List.Sublist.slnil
  | file name size rest ih => exact ih.cons name
  | dir name inside rest _ ih =>
    rw [subvisits]
    by_cases hpruned : pruned rules (joinRel relDir name) = true
    · rw [if_pos hpruned]
      exact ih.cons name
    · rw [if_neg hpruned]
      exact ih.cons_cons name
  | link name rest ih =>
    rw [subvisits]
    by_cases hpruned : pruned rules (joinRel relDir name) = true
    · rw [if_pos hpruned]
      exact ih.cons name
    · rw [if_neg hpruned]
      exact ih.cons_cons name

/-- Entries with distinct names are sorted alike, in whatever order they come. -/
theorem sortNames_eq {β : Type} {entries others : List (Text × β)} (h : entries.Perm others)
    (hkeys : (entries.map Prod.fst).Nodup) : sortNames entries = sortNames others := by
  have : Std.Total fun a b : Text × β => a.1 ≤ b.1 := ⟨fun a b => le_total a.1 b.1⟩
  have : IsTrans (Text × β) fun a b => a.1 ≤ b.1 := ⟨fun _ _ _ => le_trans⟩
  have hsorted : ∀ list : List (Text × β), (sortNames list).Pairwise fun a b => a.1 ≤ b.1 :=
    fun list => List.pairwise_insertionSort _ list
  refine List.Perm.eq_of_pairwise ?_ (hsorted entries) (hsorted others) ?_
  · intro a b ha hb hab hba
    refine List.inj_on_of_nodup_map hkeys ((sortNames_perm entries).mem_iff.mp ha) ?_
      (le_antisymm hab hba)
    exact h.mem_iff.mpr ((sortNames_perm others).mem_iff.mp hb)
  · exact (sortNames_perm entries).trans (h.trans (sortNames_perm others).symm)

/-- What two listings of one tree share. -/
structure Agree (tree tree' : Entries) : Prop where
  proper : tree'.Proper
  names : tree.names.Perm tree'.names
  files : tree.files.Perm tree'.files
  subvisits : ∀ rules relDir, (subvisits rules relDir tree).Perm (subvisits rules relDir tree')

/-- Listings that agree are walked through alike. -/
theorem Agree.turns {tree tree' : Entries} (h : Agree tree tree') (hproper : tree.Proper)
    (rules : List Text) (relDir : Text) :
    sortNames tree.files = sortNames tree'.files ∧
      sortNames (KeyholeScan.subvisits rules relDir tree) =
        sortNames (KeyholeScan.subvisits rules relDir tree') :=
  ⟨sortNames_eq h.files (hproper.nodup.sublist (files_names tree)),
    sortNames_eq (h.subvisits rules relDir)
      (hproper.nodup.sublist (subvisits_names rules relDir tree))⟩

/-- Reordering keeps everything the walk looks at. -/
theorem Reordered.agree {tree tree' : Entries} (h : Reordered tree tree') (hproper : tree.Proper) :
    Agree tree tree' := by
  induction h with
  | nil => exact ⟨trivial, .refl _, .refl _, fun _ _ => .refl _⟩
  | file name size hrest ih =>
    obtain ⟨hname, hnew, hproper⟩ := hproper
    have hagree := ih hproper
    refine ⟨⟨hname, fun hmem => hnew (hagree.names.mem_iff.mpr hmem), hagree.proper⟩,
      hagree.names.cons name, hagree.files.cons _, hagree.subvisits⟩
  | link name hrest ih =>
    obtain ⟨hname, hnew, hproper⟩ := hproper
    have hagree := ih hproper
    refine ⟨⟨hname, fun hmem => hnew (hagree.names.mem_iff.mpr hmem), hagree.proper⟩,
      hagree.names.cons name, hagree.files, fun rules relDir => ?_⟩
    rw [KeyholeScan.subvisits, KeyholeScan.subvisits]
    by_cases hpruned : pruned rules (joinRel relDir name) = true
    · rw [if_pos hpruned, if_pos hpruned]
      exact hagree.subvisits rules relDir
    · rw [if_neg hpruned, if_neg hpruned]
      exact (hagree.subvisits rules relDir).cons _
  | dir name hinside hrest ihinside ihrest =>
    obtain ⟨hname, hnew, hproperInside, hproperRest⟩ := hproper
    have hin := ihinside hproperInside
    have hagree := ihrest hproperRest
    refine ⟨⟨hname, fun hmem => hnew (hagree.names.mem_iff.mpr hmem), hin.proper, hagree.proper⟩,
      hagree.names.cons name, hagree.files, fun rules relDir => ?_⟩
    rw [KeyholeScan.subvisits, KeyholeScan.subvisits]
    by_cases hpruned : pruned rules (joinRel relDir name) = true
    · rw [if_pos hpruned, if_pos hpruned]
      exact hagree.subvisits rules relDir
    · -- the turns below the directory are the same list, not only the same turns
      obtain ⟨hfiles, hsubs⟩ := hin.turns hproperInside rules (joinRel relDir name)
      rw [if_neg hpruned, if_neg hpruned, hfiles, hsubs]
      exact (hagree.subvisits rules relDir).cons _
  | swap a b rest =>
    obtain ⟨ha, hanew, hbrest⟩ := (proper_cons a _).mp hproper
    obtain ⟨hb, hbnew, hrest⟩ := (proper_cons b _).mp hbrest
    have hperm : ∀ {β : Type} (front next last : List β),
        (front ++ (next ++ last)).Perm (next ++ (front ++ last)) :=
      fun front next last => List.perm_append_comm_assoc front next last
    refine ⟨(proper_cons b _).mpr ⟨hb, ?_, (proper_cons a _).mpr ⟨ha, ?_, hrest⟩⟩, ?_, ?_, ?_⟩
    · intro name hname hmem
      rw [names_cons] at hmem
      rcases List.mem_append.mp hmem with hmem | hmem
      · refine hanew name hmem ?_
        rw [names_cons]
        exact List.mem_append_left _ hname
      · exact hbnew name hname hmem
    · intro name hname hmem
      refine hanew name hname ?_
      rw [names_cons]
      exact List.mem_append_right _ hmem
    · rw [names_cons a, names_cons b, names_cons b (a.cons rest), names_cons a rest]
      exact hperm _ _ _
    · rw [files_cons a, files_cons b, files_cons b (a.cons rest), files_cons a rest]
      exact hperm _ _ _
    · intro rules relDir
      rw [subvisits_cons a, subvisits_cons b, subvisits_cons b (a.cons rest), subvisits_cons a rest]
      exact hperm _ _ _
  | trans _ _ ih ih' =>
    have hfirst := ih hproper
    have hsecond := ih' hfirst.proper
    exact ⟨hsecond.proper, hfirst.names.trans hsecond.names, hfirst.files.trans hsecond.files,
      fun rules relDir => (hfirst.subvisits rules relDir).trans (hsecond.subvisits rules relDir)⟩

/-- The walk takes the same turns in the same order. -/
theorem Reordered.visits {tree tree' : Entries} (h : Reordered tree tree') (hproper : tree.Proper)
    (rules : List Text) (rootName : Text) :
    visits rules rootName tree = visits rules rootName tree' := by
  obtain ⟨hfiles, hsubs⟩ := (h.agree hproper).turns hproper rules []
  rw [KeyholeScan.visits, KeyholeScan.visits, hfiles, hsubs]

/-! ## Distinct paths -/

/-- No two files of a tree share a path. -/
theorem allFiles_nodup {relDir : Text} {tree : Entries} (hproper : tree.Proper) :
    ((tree.allFiles relDir).map Prod.fst).Nodup := by
  -- a path that starts with a name is not one of another entry
  have hapart : ∀ {name other more tail : Text}, '/' ∉ name → '/' ∉ other → name ≠ other →
      (tail = [] ∨ ∃ rest, tail = '/' :: rest) → (more = [] ∨ ∃ rest, more = '/' :: rest) →
      name ++ tail ≠ other ++ more := by
    intro name other more tail hname hother hne htail hmore heq
    rcases htail with rfl | ⟨rest, rfl⟩
    · rw [List.append_nil] at heq
      rcases hmore with rfl | ⟨rest, rfl⟩
      · rw [List.append_nil] at heq
        exact hne heq
      · exact hname (heq ▸ List.mem_append_right other List.mem_cons_self)
    · rcases hmore with rfl | ⟨rest', rfl⟩
      · rw [List.append_nil] at heq
        exact hother (heq ▸ List.mem_append_right name List.mem_cons_self)
      · rcases cut_at_slash hname heq with ⟨hsame, _⟩ | ⟨between, hsame, _⟩
        · exact hne hsame.symm
        · exact hother (hsame ▸ List.mem_append_right name List.mem_cons_self)
  induction tree generalizing relDir with
  | nil => exact List.nodup_nil
  | link name rest ih => exact ih hproper.2.2
  | file name size rest ih =>
    obtain ⟨hname, hnew, hrest⟩ := hproper
    refine List.nodup_cons.mpr ⟨fun hmem => ?_, ih hrest⟩
    obtain ⟨met, hmet, hpath⟩ := List.mem_map.mp hmem
    obtain ⟨other, hother, more, hbelow, hmore⟩ := mem_allFiles hrest hmet
    rw [hpath] at hbelow
    have heq : name ++ [] = other ++ more := by
      rw [List.append_nil]
      exact joinRel_inj hbelow
    exact hapart hname.2.1 (hrest.name hother).2.1 (fun hsame => hnew (hsame ▸ hother))
      (.inl rfl) hmore heq
  | dir name inside rest ihinside ihrest =>
    obtain ⟨hname, hnew, hinside, hrest⟩ := hproper
    rw [Entries.allFiles, List.map_append]
    refine List.nodup_append.mpr ⟨ihinside hinside, ihrest hrest, ?_⟩
    intro path hpath path' hpath' hsame
    obtain ⟨met, hmet, rfl⟩ := List.mem_map.mp hpath
    obtain ⟨met', hmet', rfl⟩ := List.mem_map.mp hpath'
    obtain ⟨below, _, more, hbelow, _⟩ := mem_allFiles hinside hmet
    obtain ⟨other, hother, more', hbelow', hmore'⟩ := mem_allFiles hrest hmet'
    have heq : name ++ '/' :: (below ++ more) = other ++ more' := by
      have hjoined : joinRel relDir (name ++ '/' :: (below ++ more))
          = joinRel relDir (other ++ more') := by
        rw [← joinRel_joinRel hname.1, ← hbelow, ← hbelow', hsame]
      exact joinRel_inj hjoined
    exact hapart hname.2.1 (hrest.name hother).2.1 (fun hsame => hnew (hsame ▸ hother))
      (.inr ⟨_, rfl⟩) hmore' heq

/-- The size of the file at a path; `0` where it cannot be read. -/
def sizeAt (tree : Entries) (path : Text) : Nat :=
  match (tree.allFiles []).find? fun file => file.1 == path with
  | some file => file.2.getD 0
  | none => 0

theorem sizeAt_of_mem {tree : Entries} (hproper : tree.Proper) {file : Text × Option Nat}
    (h : file ∈ tree.allFiles []) : sizeAt tree file.1 = file.2.getD 0 := by
  rw [sizeAt]
  cases hfind : (tree.allFiles []).find? fun other => other.1 == file.1 with
  | none => exact absurd (beq_self_eq_true file.1) (List.find?_eq_none.mp hfind file h)
  | some found =>
    have hbeq : (found.1 == file.1) = true :=
      List.find?_some (p := fun other : Text × Option Nat => other.1 == file.1) hfind
    rw [List.inj_on_of_nodup_map (allFiles_nodup hproper) (List.mem_of_find?_eq_some hfind) h
      (beq_iff_eq.mp hbeq)]

/-! ## The budget -/

/-- What a ledger satisfies once it has met the files. -/
structure Balanced (maxBytes : Int) (files : List (Text × Option Nat)) (ledger : Ledger) :
    Prop where
  parts : (ledger.included ++ ledger.excluded).Perm (files.map Prod.fst)
  total : ledger.total = files.length
  kept : ∃ kept : List (Text × Option Nat), (∀ file ∈ kept, file ∈ files) ∧
    ledger.included = kept.map Prod.fst ∧
    ledger.bytes = (kept.map fun file => file.2.getD 0).sum
  within : 0 < maxBytes → (ledger.bytes : Int) ≤ maxBytes

theorem balanced_nil (maxBytes : Int) : Balanced maxBytes [] {} where
  parts := .refl _
  total := rfl
  kept := ⟨[], nofun, rfl, rfl⟩
  within := fun h => Int.le_of_lt h

/-- One more file keeps the ledger balanced. -/
theorem Balanced.enter {maxBytes : Int} {files : List (Text × Option Nat)} {ledger : Ledger}
    (h : Balanced maxBytes files ledger) (rules : IncludeExcludeFilter)
    (file : Text × Option Nat) :
    Balanced maxBytes (files ++ [file]) (ledger.enter rules maxBytes file) := by
  obtain ⟨kept, hmem, hincluded, hbytes⟩ := h.kept
  have hmem' : ∀ met ∈ kept, met ∈ files ++ [file] := fun met hmet =>
    List.mem_append_left _ (hmem met hmet)
  have hparts : (ledger.included ++ ledger.excluded ++ [file.1]).Perm
      ((files ++ [file]).map Prod.fst) := by
    rw [List.map_append]
    exact h.parts.append_right _
  have htotal : ledger.total + 1 = (files ++ [file]).length := by
    rw [h.total, List.length_append]
    rfl
  rw [Ledger.enter]
  by_cases hskip : (!(rules.classify file.1).1 ||
      decide (0 < maxBytes ∧ maxBytes < ((ledger.bytes + file.2.getD 0 : Nat) : Int))) = true
  · rw [if_pos hskip]
    refine ⟨?_, htotal, ⟨kept, hmem', hincluded, hbytes⟩, h.within⟩
    rw [← List.append_assoc]
    exact hparts
  · rw [if_neg hskip]
    refine ⟨?_, htotal, ⟨kept ++ [file], ?_, ?_, ?_⟩, ?_⟩
    · refine List.Perm.trans ?_ hparts
      rw [List.append_assoc, List.append_assoc]
      exact List.perm_append_comm.append_left _
    · intro met hmet
      rcases List.mem_append.mp hmet with hmet | hmet
      · exact hmem' met hmet
      · exact List.mem_append_right _ hmet
    · rw [List.map_append, hincluded]
      rfl
    · rw [List.map_append, List.sum_append, hbytes]
      rfl
    · intro hpos
      refine Int.not_lt.mp fun hover => hskip ?_
      exact Bool.or_eq_true_iff.mpr (.inr (decide_eq_true ⟨hpos, hover⟩))

theorem balanced_fold (rules : IncludeExcludeFilter) (maxBytes : Int)
    (files : List (Text × Option Nat)) :
    Balanced maxBytes files (files.foldl (Ledger.enter rules maxBytes) {}) := by
  have hfrom : ∀ (met : List (Text × Option Nat)) (ledger : Ledger), Balanced maxBytes met ledger →
      Balanced maxBytes (met ++ files) (files.foldl (Ledger.enter rules maxBytes) ledger) := by
    induction files with
    | nil =>
      intro met ledger h
      rw [List.append_nil]
      exact h
    | cons file rest ih =>
      intro met ledger h
      have hstep := ih (met ++ [file]) _ (h.enter rules file)
      rw [List.append_assoc] at hstep
      exact hstep
  exact hfrom [] {} (balanced_nil maxBytes)

section Scan

variable (lower : Text → Text) (root : Text) (rules : IncludeExcludeFilter) (maxBytes : Int)
  (tree : Tree)

/-- The files the walk meets. -/
def metFiles : List (Text × Option Nat) :=
  turnFiles (visits rules.excludes (pathName root) tree.entries)

theorem mem_allFiles_of_met {file : Text × Option Nat} (h : file ∈ metFiles root rules tree) :
    file ∈ tree.entries.allFiles [] :=
  mem_allFiles_of_seen ((turnFiles_visits rules.excludes _ tree.entries).mem_iff.mp h)

theorem metFiles_nodup : ((metFiles root rules tree).map Prod.fst).Nodup := by
  have hperm := ((turnFiles_visits rules.excludes (pathName root) tree.entries).map Prod.fst)
  refine hperm.nodup_iff.mpr ?_
  have hall := (allFiles_perm rules.excludes [] tree.entries).map Prod.fst
  rw [List.map_append] at hall
  exact (List.nodup_append.mp (hall.nodup_iff.mp (allFiles_nodup tree.proper))).1

theorem balanced_scan :
    Balanced maxBytes (metFiles root rules tree)
      (scanVisits lower rules maxBytes
        (visits rules.excludes (pathName root) tree.entries)).ledger := by
  rw [ledger_scanVisits]
  exact balanced_fold rules maxBytes _

theorem included_excluded_disjoint {path : Text}
    (h : path ∈ (scanRepo lower root rules maxBytes tree).includedFiles) :
    path ∉ (scanRepo lower root rules maxBytes tree).excludedFiles := by
  intro hexcluded
  have hnodup := (balanced_scan lower root rules maxBytes tree).parts.nodup_iff.mpr
    (metFiles_nodup root rules tree)
  exact (List.nodup_append.mp hnodup).2.2 path ((sortTexts_perm _).mem_iff.mp h) path
    ((sortTexts_perm _).mem_iff.mp hexcluded) rfl

theorem totalFiles_eq :
    (scanRepo lower root rules maxBytes tree).includedFiles.length +
        (scanRepo lower root rules maxBytes tree).excludedFiles.length =
      (scanRepo lower root rules maxBytes tree).totalFiles := by
  have hbalanced := balanced_scan lower root rules maxBytes tree
  have hlength := hbalanced.parts.length_eq
  rw [List.length_append, List.length_map, ← hbalanced.total] at hlength
  show (sortTexts _).length + (sortTexts _).length = _
  rw [(sortTexts_perm _).length_eq, (sortTexts_perm _).length_eq]
  exact hlength

theorem totalIncludedBytes_eq :
    (scanRepo lower root rules maxBytes tree).totalIncludedBytes =
      ((scanRepo lower root rules maxBytes tree).includedFiles.map (sizeAt tree.entries)).sum := by
  obtain ⟨kept, hmem, hincluded, hbytes⟩ := (balanced_scan lower root rules maxBytes tree).kept
  have hsizes : kept.map (fun file => file.2.getD 0) =
      (kept.map Prod.fst).map (sizeAt tree.entries) := by
    rw [List.map_map]
    refine List.map_congr_left fun file hfile => ?_
    exact (sizeAt_of_mem tree.proper (mem_allFiles_of_met root rules tree (hmem file hfile))).symm
  have hsorted : ((scanRepo lower root rules maxBytes tree).includedFiles.map
      (sizeAt tree.entries)).sum = ((kept.map Prod.fst).map (sizeAt tree.entries)).sum := by
    rw [← hincluded]
    exact ((sortTexts_perm _).map _).sum_nat
  rw [hsorted, ← hsizes]
  exact hbytes

end Scan

/-- A scan is the same for every order in which directories are listed; what it includes and
    what it excludes are disjoint and number its total, and the bytes it includes are those
    of the included files and stay within the budget. -/
theorem scan_reproducible_within_budget (lower : Text → Text) (root : Text)
    (rules : IncludeExcludeFilter) (maxBytes : Int) (tree other : Tree)
    (h : Reordered tree.entries other.entries) :
    scanRepo lower root rules maxBytes other = scanRepo lower root rules maxBytes tree ∧
      (∀ path ∈ (scanRepo lower root rules maxBytes tree).includedFiles,
        path ∉ (scanRepo lower root rules maxBytes tree).excludedFiles) ∧
      (scanRepo lower root rules maxBytes tree).includedFiles.length +
          (scanRepo lower root rules maxBytes tree).excludedFiles.length =
        (scanRepo lower root rules maxBytes tree).totalFiles ∧
      (0 < maxBytes →
        (scanRepo lower root rules maxBytes tree).totalIncludedBytes =
            ((scanRepo lower root rules maxBytes tree).includedFiles.map
              (sizeAt tree.entries)).sum ∧
          ((scanRepo lower root rules maxBytes tree).totalIncludedBytes : Int) ≤ maxBytes) := by
  refine ⟨?_, fun path => included_excluded_disjoint lower root rules maxBytes tree,
    totalFiles_eq lower root rules maxBytes tree, fun hpos => ⟨?_, ?_⟩⟩
  · rw [scanRepo, scanRepo, h.visits tree.proper]
  · exact totalIncludedBytes_eq lower root rules maxBytes tree
  · exact (balanced_scan lower root rules maxBytes tree).within hpos

/-- Two sources that do not both fit in five bytes. -/
def crampedTree : Tree where
  entries := .file "b.py".toList (some 3) (.file "a.py".toList (some 4) .nil)
  proper := by
    refine ⟨⟨?_, ?_, ?_, ?_⟩, ?_, ⟨⟨?_, ?_, ?_, ?_⟩, ?_, trivial⟩⟩ <;> decide

/-- The same, the other way round. -/
def crampedTree' : Tree where
  entries := .file "a.py".toList (some 4) (.file "b.py".toList (some 3) .nil)
  proper := by
    refine ⟨⟨?_, ?_, ?_, ?_⟩, ?_, ⟨⟨?_, ?_, ?_, ?_⟩, ?_, trivial⟩⟩ <;> decide

/-- Whichever is listed first, the one that is first by name is kept. -/
theorem cramped_scan :
    scanRepo id "/repo".toList (includeExcludeFilter [] []) 5 crampedTree' =
        scanRepo id "/repo".toList (includeExcludeFilter [] []) 5 crampedTree ∧
      (scanRepo id "/repo".toList (includeExcludeFilter [] []) 5 crampedTree).includedFiles =
        ["a.py".toList] ∧
      ((scanRepo id "/repo".toList (includeExcludeFilter [] []) 5
        crampedTree).totalIncludedBytes : Int) ≤ 5 := by
  have hswap : Reordered crampedTree.entries crampedTree'.entries :=
    Reordered.swap (.file "b.py".toList (some 3)) (.file "a.py".toList (some 4)) .nil
  have hscan := scan_reproducible_within_budget id "/repo".toList (includeExcludeFilter [] []) 5
    crampedTree crampedTree' hswap
  exact ⟨hscan.1, by decide, (hscan.2.2.2 (by decide)).2⟩

end KeyholeScan
