import Keyhole.RepoScan

/-!
# What the walk of a scan meets

The turns of the pruned walk come sorted; the lists here follow the listing of the tree
instead, so that statements about a scan can be proved by induction on the tree.

  - `Entries.allFiles`: every file of the tree with its relative path.
  - `seen` and `dropped`: the files the pruned walk meets and those it never reaches; up to
    the order the two make up all files (`allFiles_perm`), and the turns of the walk hold
    the first (`turnFiles_visits`).
  - `Ledger`: the variables of the scan that decide what is kept, and how each file
    changes them (`ledger_scanVisits`). -/

namespace KeyholeScan

open KeyholeNamespace (Text)

/-- Every file of a tree with its relative path. -/
def Entries.allFiles (relDir : Text) : Entries → List (Text × Option Nat)
  | .nil => []
  | .file name size rest => (joinRel relDir name, size) :: rest.allFiles relDir
  | .dir name inside rest => inside.allFiles (joinRel relDir name) ++ rest.allFiles relDir
  | .link _ rest => rest.allFiles relDir

/-- The files the pruned walk meets. -/
def seen (rules : List Text) (relDir : Text) : Entries → List (Text × Option Nat)
  | .nil => []
  | .file name size rest => (joinRel relDir name, size) :: seen rules relDir rest
  | .dir name inside rest =>
      if pruned rules (joinRel relDir name) then seen rules relDir rest
      else seen rules (joinRel relDir name) inside ++ seen rules relDir rest
  | .link _ rest => seen rules relDir rest

/-- The files below the directories it prunes. -/
def dropped (rules : List Text) (relDir : Text) : Entries → List (Text × Option Nat)
  | .nil => []
  | .file _ _ rest => dropped rules relDir rest
  | .dir name inside rest =>
      if pruned rules (joinRel relDir name) then
        inside.allFiles (joinRel relDir name) ++ dropped rules relDir rest
      else dropped rules (joinRel relDir name) inside ++ dropped rules relDir rest
  | .link _ rest => dropped rules relDir rest

/-- The files of the turns of a walk. -/
def turnFiles (turns : List Visit) : List (Text × Option Nat) :=
  turns.flatMap fun turn => turn.files.map fun entry => (joinRel turn.relDir entry.1, entry.2)

theorem turnFiles_append (turns others : List Visit) :
    turnFiles (turns ++ others) = turnFiles turns ++ turnFiles others := List.flatMap_append

theorem turnFiles_cons (turn : Visit) (turns : List Visit) :
    turnFiles (turn :: turns) =
      (turn.files.map fun entry => (joinRel turn.relDir entry.1, entry.2)) ++ turnFiles turns :=
  List.flatMap_cons

/-! ## The walk and the listing -/

theorem sortNames_perm {β : Type} (entries : List (Text × β)) : (sortNames entries).Perm entries :=
  List.perm_insertionSort _ entries

/-- Sorting the directories only reorders their turns. -/
theorem turnFiles_sorted (subs : List (Text × List Visit)) :
    (turnFiles ((sortNames subs).flatMap Prod.snd)).Perm (turnFiles (subs.flatMap Prod.snd)) := by
  have hturns : ((sortNames subs).flatMap Prod.snd).Perm (subs.flatMap Prod.snd) :=
    (sortNames_perm subs).flatMap_right Prod.snd
  exact hturns.flatMap_right _

/-- A directory's own files and those of the turns below it are the files seen. -/
theorem turnFiles_subvisits (rules : List Text) (relDir : Text) (tree : Entries) :
    (tree.files.map (fun entry => (joinRel relDir entry.1, entry.2)) ++
      turnFiles ((subvisits rules relDir tree).flatMap Prod.snd)).Perm
      (seen rules relDir tree) := by
  induction tree generalizing relDir with
  | nil => exact List.Perm.refl _
  | file name size rest ih => exact (ih relDir).cons _
  | link name rest ih =>
    have hsub : (subvisits rules relDir (.link name rest)).flatMap Prod.snd =
        (subvisits rules relDir rest).flatMap Prod.snd := by
      rw [subvisits]
      by_cases hpruned : pruned rules (joinRel relDir name) = true
      · rw [if_pos hpruned]
      · rw [if_neg hpruned]
        rfl
    rw [hsub]
    exact ih relDir
  | dir name inside rest ihinside ihrest =>
    rw [subvisits, seen]
    by_cases hpruned : pruned rules (joinRel relDir name) = true
    · rw [if_pos hpruned, if_pos hpruned]
      exact ihrest relDir
    · rw [if_neg hpruned, if_neg hpruned, List.flatMap_cons, turnFiles_append, turnFiles_cons]
      -- the turns of the directory, sorted, are the files seen inside it
      have hinside : ((sortNames inside.files).map
            (fun entry => (joinRel (joinRel relDir name) entry.1, entry.2)) ++
          turnFiles ((sortNames (subvisits rules (joinRel relDir name) inside)).flatMap
            Prod.snd)).Perm (seen rules (joinRel relDir name) inside) :=
        (((sortNames_perm inside.files).map _).append (turnFiles_sorted _)).trans
          (ihinside (joinRel relDir name))
      refine List.Perm.trans ?_ (hinside.append (ihrest relDir))
      exact List.perm_append_comm_assoc _ _ _

/-- The walk meets exactly the files seen, up to the order. -/
theorem turnFiles_visits (rules : List Text) (rootName : Text) (tree : Entries) :
    (turnFiles (visits rules rootName tree)).Perm (seen rules [] tree) := by
  rw [visits, turnFiles_cons]
  exact (((sortNames_perm tree.files).map _).append (turnFiles_sorted _)).trans
    (turnFiles_subvisits rules [] tree)

/-- A file of the tree is seen or dropped. -/
theorem allFiles_perm (rules : List Text) (relDir : Text) (tree : Entries) :
    (tree.allFiles relDir).Perm (seen rules relDir tree ++ dropped rules relDir tree) := by
  induction tree generalizing relDir with
  | nil => exact List.Perm.refl _
  | file name size rest ih => exact (ih relDir).cons _
  | link name rest ih => exact ih relDir
  | dir name inside rest ihinside ihrest =>
    rw [Entries.allFiles, seen, dropped]
    by_cases hpruned : pruned rules (joinRel relDir name) = true
    · rw [if_pos hpruned, if_pos hpruned]
      refine ((ihrest relDir).append_left _).trans ?_
      exact List.perm_append_comm_assoc _ _ _
    · rw [if_neg hpruned, if_neg hpruned]
      refine ((ihinside _).append (ihrest relDir)).trans ?_
      rw [List.append_assoc, List.append_assoc]
      exact (List.perm_append_comm_assoc _ _ _).append_left _

/-! ## Paths below a directory -/

theorem joinRel_of_ne {relDir : Text} (h : relDir ≠ []) (name : Text) :
    joinRel relDir name = relDir ++ '/' :: name := by rw [joinRel, if_neg h]

theorem joinRel_nil (name : Text) : joinRel [] name = name := by rw [joinRel, if_pos rfl]

theorem joinRel_ne_nil {relDir name : Text} (h : name ≠ []) : joinRel relDir name ≠ [] := by
  by_cases hrel : relDir = []
  · rw [hrel, joinRel_nil]
    exact h
  · rw [joinRel_of_ne hrel]
    intro heq
    exact hrel (List.append_eq_nil_iff.mp heq).1

/-- A path goes on below a directory as it goes on below the directory's name. -/
theorem joinRel_append (relDir : Text) (name rest : Text) :
    joinRel relDir (name ++ rest) = joinRel relDir name ++ rest := by
  by_cases hrel : relDir = []
  · rw [hrel, joinRel_nil, joinRel_nil]
  · rw [joinRel_of_ne hrel, joinRel_of_ne hrel, List.append_assoc]
    rfl

theorem joinRel_joinRel {relDir name : Text} (h : name ≠ []) (rest : Text) :
    joinRel (joinRel relDir name) rest = joinRel relDir (name ++ '/' :: rest) := by
  rw [joinRel_of_ne (joinRel_ne_nil h), joinRel_append]

theorem joinRel_inj {relDir a b : Text} (h : joinRel relDir a = joinRel relDir b) : a = b := by
  by_cases hrel : relDir = []
  · rw [hrel, joinRel_nil, joinRel_nil] at h
    exact h
  · rw [joinRel_of_ne hrel, joinRel_of_ne hrel] at h
    exact List.tail_eq_of_cons_eq (List.append_cancel_left h)

/-- Two texts cut at a slash: the front without one ends first. -/
theorem cut_at_slash {name rest front others : Text} (hname : '/' ∉ name)
    (h : name ++ '/' :: rest = front ++ '/' :: others) :
    front = name ∧ rest = others ∨
      ∃ more, front = name ++ '/' :: more ∧ rest = more ++ '/' :: others := by
  induction name generalizing front with
  | nil =>
    cases front with
    | nil => exact .inl ⟨rfl, List.tail_eq_of_cons_eq h⟩
    | cons c front =>
      obtain ⟨hc, hrest⟩ := List.cons.inj h
      exact .inr ⟨front, by rw [← hc]; rfl, hrest⟩
  | cons c name ih =>
    cases front with
    | nil =>
      obtain ⟨hc, _⟩ := List.cons.inj h
      exact absurd (hc ▸ List.mem_cons_self) hname
    | cons d front =>
      obtain ⟨hc, hrest⟩ := List.cons.inj h
      have hrest' : '/' ∉ name := fun hmem => hname (List.mem_cons_of_mem c hmem)
      rcases ih hrest' hrest with ⟨hfront, hothers⟩ | ⟨more, hfront, hothers⟩
      · exact .inl ⟨by rw [hfront, hc], hothers⟩
      · exact .inr ⟨more, by rw [hfront, hc]; rfl, hothers⟩

/-- The path of a file is its directory's path and what follows. -/
theorem mem_allFiles {relDir : Text} {tree : Entries} (hproper : tree.Proper)
    {file : Text × Option Nat} (h : file ∈ tree.allFiles relDir) :
    ∃ name ∈ tree.names, ∃ more, file.1 = joinRel relDir (name ++ more) ∧
      (more = [] ∨ ∃ rest, more = '/' :: rest) := by
  induction tree generalizing relDir with
  | nil => exact nomatch h
  | file name size rest ih =>
    obtain ⟨_, _, hrest⟩ := hproper
    rcases List.mem_cons.mp h with rfl | h
    · refine ⟨name, List.mem_cons_self, [], ?_, .inl rfl⟩
      show joinRel relDir name = joinRel relDir (name ++ [])
      rw [List.append_nil]
    · obtain ⟨other, hmem, found⟩ := ih hrest h
      exact ⟨other, List.mem_cons_of_mem _ hmem, found⟩
  | link name rest ih =>
    obtain ⟨_, _, hrest⟩ := hproper
    obtain ⟨other, hmem, found⟩ := ih hrest h
    exact ⟨other, List.mem_cons_of_mem _ hmem, found⟩
  | dir name inside rest ihinside ihrest =>
    obtain ⟨hname, _, hinside, hrest⟩ := hproper
    rcases List.mem_append.mp h with h | h
    · obtain ⟨below, _, more, hpath, _⟩ := ihinside hinside h
      refine ⟨name, List.mem_cons_self, '/' :: (below ++ more), ?_, .inr ⟨_, rfl⟩⟩
      rw [hpath, joinRel_joinRel hname.1]
    · obtain ⟨other, hmem, found⟩ := ihrest hrest h
      exact ⟨other, List.mem_cons_of_mem _ hmem, found⟩

theorem Entries.Proper.name {tree : Entries} (hproper : tree.Proper) {name : Text}
    (h : name ∈ tree.names) : ProperName name := by
  induction tree with
  | nil => exact nomatch h
  | file other size rest ih =>
    obtain ⟨hother, _, hrest⟩ := hproper
    rcases List.mem_cons.mp h with rfl | h
    · exact hother
    · exact ih hrest h
  | link other rest ih =>
    obtain ⟨hother, _, hrest⟩ := hproper
    rcases List.mem_cons.mp h with rfl | h
    · exact hother
    · exact ih hrest h
  | dir other inside rest _ ih =>
    obtain ⟨hother, _, _, hrest⟩ := hproper
    rcases List.mem_cons.mp h with rfl | h
    · exact hother
    · exact ih hrest h

/-! ## The ledger -/

/-- The variables of the scan that decide what is kept. -/
structure Ledger where
  included : List Text := []
  excluded : List Text := []
  total : Nat := 0
  bytes : Nat := 0

def Scan.ledger (scan : Scan) : Ledger :=
  ⟨scan.includedFiles, scan.excludedFiles, scan.totalFiles, scan.totalIncludedBytes⟩

/-- A file with its relative path. -/
def Ledger.enter (rules : IncludeExcludeFilter) (maxBytes : Int) (ledger : Ledger)
    (file : Text × Option Nat) : Ledger :=
  if !(rules.classify file.1).1 ||
      decide (0 < maxBytes ∧ maxBytes < ((ledger.bytes + file.2.getD 0 : Nat) : Int)) then
    { ledger with excluded := ledger.excluded ++ [file.1], total := ledger.total + 1 }
  else
    { ledger with
      included := ledger.included ++ [file.1]
      total := ledger.total + 1
      bytes := ledger.bytes + file.2.getD 0 }

section Ledger

theorem ledger_addLanguage (scan : Scan) (relPath lang : Text) :
    (scan.addLanguage relPath lang).ledger = scan.ledger := by
  rw [Scan.addLanguage]
  by_cases h : lang = []
  · rw [if_pos h]
  · rw [if_neg h]
    rfl

theorem ledger_addFramework (scan : Scan) (relPath fw : Text) (confidence : ConfidenceLevel) :
    (scan.addFramework relPath fw confidence).ledger = scan.ledger := by
  rw [Scan.addFramework]
  by_cases h : fw = []
  · rw [if_pos h]
  · rw [if_neg h]
    rfl

/-- What the scan learns of a file does not decide what is kept. -/
theorem ledger_detect (scan : Scan) (lower : Text → Text) (relPath filename : Text) :
    (scan.detect lower relPath filename).ledger = scan.ledger := by
  have hkeyhole : (scan.detectKeyhole filename).ledger = scan.ledger := by
    rw [Scan.detectKeyhole]
    by_cases h : listed keyholeMarkers filename = true
    · rw [if_pos h]
      rfl
    · rw [if_neg h]
  have hmanifest : ∀ scan : Scan, (scan.detectManifest relPath filename).ledger = scan.ledger := by
    intro scan
    rw [Scan.detectManifest]
    cases tableGet manifestSignals filename with
    | none => rfl
    | some found =>
      show ((Scan.addLanguage _ _ _).addFramework _ _ _).ledger = scan.ledger
      rw [ledger_addFramework, ledger_addLanguage]
      rfl
  have hframework : ∀ scan : Scan, (scan.detectFramework relPath filename).ledger = scan.ledger := by
    intro scan
    rw [Scan.detectFramework]
    cases tableGet frameworkHints filename with
    | none => rfl
    | some fw => exact ledger_addFramework _ _ _ _
  have hkind : ∀ scan : Scan, (scan.detectKind lower relPath filename).ledger = scan.ledger := by
    intro scan
    rw [Scan.detectKind]
    cases classifyFile lower relPath filename with
    | source => rfl
    | test => rfl
    | doc => rfl
    | manifest => rfl
    | build => rfl
    | ci => rfl
    | config => rfl
    | other => rfl
  rw [Scan.detect, hkind, hframework, hmanifest, hkeyhole]

variable (lower : Text → Text) (rules : IncludeExcludeFilter) (maxBytes : Int)

theorem ledger_visitFile (relDir : Text) (scan : Scan) (entry : Text × Option Nat) :
    (visitFile lower rules maxBytes relDir scan entry).ledger =
      scan.ledger.enter rules maxBytes (joinRel relDir entry.1, entry.2) := by
  rw [visitFile, Ledger.enter]
  by_cases hclass : (!(rules.classify (joinRel relDir entry.1)).1) = true
  · rw [if_pos hclass, if_pos (Bool.or_eq_true_iff.mpr (.inl hclass))]
    rfl
  · rw [if_neg hclass]
    by_cases hbudget : 0 < maxBytes ∧
        maxBytes < ((scan.totalIncludedBytes + entry.2.getD 0 : Nat) : Int)
    · have hover : (!(rules.classify (joinRel relDir entry.1)).1 ||
          decide (0 < maxBytes ∧
            maxBytes < ((scan.ledger.bytes + entry.2.getD 0 : Nat) : Int))) = true :=
        Bool.or_eq_true_iff.mpr (.inr (decide_eq_true hbudget))
      refine Eq.trans (congrArg Scan.ledger (if_pos hbudget)) ?_
      rw [if_pos hover]
      rfl
    · have hkeep : ¬(!(rules.classify (joinRel relDir entry.1)).1 ||
          decide (0 < maxBytes ∧
            maxBytes < ((scan.ledger.bytes + entry.2.getD 0 : Nat) : Int))) = true := by
        intro h
        rcases Bool.or_eq_true_iff.mp h with h | h
        · exact hclass h
        · exact hbudget (of_decide_eq_true h)
      refine Eq.trans (congrArg Scan.ledger (if_neg hbudget)) ?_
      rw [ledger_detect, if_neg hkeep]
      rfl

theorem ledger_visitDir (scan : Scan) (turn : Visit) :
    (visitDir scan turn).ledger = scan.ledger := by
  rw [visitDir]
  by_cases hsource : (listed sourceDirNames turn.dirName && turn.relDir != []) = true <;>
    by_cases htest : (listed testDirNames turn.dirName && turn.relDir != []) = true <;>
      simp only [hsource, htest, if_pos, Bool.false_eq_true, ite_false] <;> rfl

theorem ledger_visitFiles (relDir : Text) (entries : List (Text × Option Nat)) (scan : Scan) :
    (entries.foldl (visitFile lower rules maxBytes relDir) scan).ledger =
      (entries.map fun entry => (joinRel relDir entry.1, entry.2)).foldl
        (Ledger.enter rules maxBytes) scan.ledger := by
  induction entries generalizing scan with
  | nil => rfl
  | cons entry rest ih =>
    rw [List.foldl_cons, ih, ledger_visitFile]
    rfl

/-- The ledger of a scan is that of the files of its turns. -/
theorem ledger_scanVisits (turns : List Visit) :
    (scanVisits lower rules maxBytes turns).ledger =
      (turnFiles turns).foldl (Ledger.enter rules maxBytes) {} := by
  have hfrom : ∀ scan : Scan, (turns.foldl (visitOne lower rules maxBytes) scan).ledger =
      (turnFiles turns).foldl (Ledger.enter rules maxBytes) scan.ledger := by
    induction turns with
    | nil => exact fun _ => rfl
    | cons turn rest ih =>
      intro scan
      rw [List.foldl_cons, ih, visitOne, ledger_visitFiles, ledger_visitDir, turnFiles_cons,
        List.foldl_append]
  exact hfrom {}

end Ledger

end KeyholeScan
