import Keyhole.CapabilityGrammar
import Keyhole.ScanWalk

/-!
# Pruning and classifying

`scan_repo` prunes a directory when any exclude rule matches its path, with or without a
slash at the end, while `classify` asks the rules about the path of a file.  For most rules
the two agree: what matches a directory matches every path below it.

  - `settledRule`: the rules for which they agree (`settled_excludes`): a plain name, and a
    rule with a slash that ends in a star.
  - `included_iff_no_loose`: the scan includes exactly the files that `classify` accepts,
    unless one of them lies below a directory that another rule matches.
  - `zipped_file_lost`: with the default rules, a source file below a directory that is named
    like an archive. -/

namespace KeyholeScan

open KeyholeNamespace (Text splitOn)
open KeyholeGrammar
open ShellPattern hiding Text

/-! ## Splitting at slashes -/

variable {path part pattern above rest rule relDir : Text} {rules : List Text} {sep : Char}
variable {tree : Entries} {file : Text × Option Nat}

/-- A text that is cut at a separator splits on both sides of the cut. -/
theorem splitOn_cut (front rest : Text) :
    splitOn sep (front ++ sep :: rest) = splitOn sep front ++ splitOn sep rest := by
  induction front with
  | nil => exact splitOn_sep rest
  | cons c front ih =>
    by_cases hc : c = sep
    · subst hc
      rw [List.cons_append, splitOn_sep, splitOn_sep, ih]
      rfl
    · cases hfront : splitOn sep front with
      | nil => exact absurd hfront (splitOn_ne_nil front)
      | cons part parts =>
        rw [hfront] at ih
        rw [List.cons_append, splitOn_cons hc ih, splitOn_cons hc hfront]
        rfl

/-- A text without a separator, or its first part and the rest. -/
theorem exists_cut (text : Text) :
    sep ∉ text ∨ ∃ front rest, sep ∉ front ∧ text = front ++ sep :: rest := by
  induction text with
  | nil => exact .inl nofun
  | cons c text ih =>
    by_cases hc : c = sep
    · exact .inr ⟨[], text, nofun, by rw [hc]; rfl⟩
    · rcases ih with hnot | ⟨front, rest, hfront, htext⟩
      · refine .inl fun h => ?_
        rcases List.mem_cons.mp h with heq | h
        · exact hc heq.symm
        · exact hnot h
      · refine .inr ⟨c :: front, rest, fun h => ?_, by rw [htext]; rfl⟩
        rcases List.mem_cons.mp h with heq | h
        · exact hc heq.symm
        · exact hfront h

theorem map_eq_self {f : Char → Char} {text : Text} (h : ∀ c ∈ text, f c = c) :
    text.map f = text := by
  induction text with
  | nil => rfl
  | cons c text ih =>
    rw [List.map_cons, h c List.mem_cons_self, ih fun d hd => h d (List.mem_cons_of_mem c hd)]

/-- A part whose characters a renaming keeps is a part of the renamed text. -/
theorem mem_splitOn_map {f : Char → Char} (hsep : f sep = sep) {text : Text}
    (hkept : ∀ c ∈ part, f c = c) (h : part ∈ splitOn sep text) :
    part ∈ splitOn sep (text.map f) := by
  have hcut : sep ∉ text ∨ ∃ front rest, sep ∉ front ∧ text = front ++ sep :: rest :=
    exists_cut text
  rcases hcut with hnot | ⟨front, rest, hfront, htext⟩
  · rw [splitOn_of_not_mem hnot] at h
    have hpart : part = text := List.mem_singleton.mp h
    rw [← hpart, map_eq_self hkept, hpart, splitOn_of_not_mem hnot]
    exact List.mem_cons_self
  · have hmap : text.map f = front.map f ++ sep :: rest.map f := by
      rw [htext, List.map_append, List.map_cons, hsep]
    rw [htext, splitOn_append hfront] at h
    rcases List.mem_cons.mp h with heq | hrest
    · rw [hmap, ← heq, map_eq_self hkept, splitOn_append (heq ▸ hfront)]
      exact List.mem_cons_self
    · rw [hmap, splitOn_cut]
      exact List.mem_append_right _ (mem_splitOn_map hsep hkept hrest)
termination_by text.length
decreasing_by
  rw [htext, List.length_append, List.length_cons]
  omega

/-! ## Components of paths -/

theorem components_cut (front rest : Text) :
    components (front ++ '/' :: rest) = components front ++ components rest := by
  rw [components, splitOn_cut, List.filter_append]
  rfl

theorem components_slash (path : Text) : components (path ++ ['/']) = components path := by
  rw [components_cut]
  exact List.append_nil _

theorem slash_notMem_component (h : part ∈ components path) : '/' ∉ part :=
  (splitOn_spec path).2 part (List.mem_filter.mp h).1

theorem slash_notMem_pathName (path : Text) : '/' ∉ pathName path := by
  rw [pathName, List.getLastD_eq_getLast?]
  cases hlast : (components path).getLast? with
  | none => exact nofun
  | some part => exact slash_notMem_component (List.mem_of_getLast? hlast)

theorem pathName_mem (h : pathName path ≠ []) : pathName path ∈ components path := by
  rw [pathName, List.getLastD_eq_getLast?] at h ⊢
  cases hlast : (components path).getLast? with
  | none =>
    rw [hlast] at h
    exact absurd rfl h
  | some part => exact List.mem_of_getLast? hlast

/-- A part of a path is a component, or the root, which ends in a slash. -/
theorem mem_pathParts (h : part ∈ pathParts path) :
    part ∈ components path ∨ part.getLast? = some '/' := by
  rw [pathParts] at h
  by_cases hroot : posixRoot path = []
  · rw [if_pos hroot] at h
    exact .inl h
  · rw [if_neg hroot] at h
    rcases List.mem_cons.mp h with rfl | h
    · refine .inr ?_
      rw [posixRoot] at hroot ⊢
      by_cases htwo : (['/', '/'].isPrefixOf path && !(['/', '/', '/'].isPrefixOf path)) = true
      · rw [if_pos htwo]
        rfl
      · rw [if_neg htwo] at hroot ⊢
        by_cases hone : ['/'].isPrefixOf path = true
        · rw [if_pos hone]
          rfl
        · rw [if_neg hone] at hroot
          exact absurd rfl hroot
    · exact .inl h

theorem mem_pathParts_of_component (h : part ∈ components path) :
    part ∈ pathParts path := by
  rw [pathParts]
  by_cases hroot : posixRoot path = []
  · rw [if_pos hroot]
    exact h
  · rw [if_neg hroot]
    exact List.mem_cons_of_mem _ h

theorem normSlash_of_ne {c : Char} (h : c ≠ '\\') : normSlash c = c := by rw [normSlash, if_neg h]

/-- A component of a directory is one of every path below it, once backslashes count as
    slashes. -/
theorem component_below (hback : '\\' ∉ part) (h : part ∈ components above) :
    part ∈ components ((above ++ '/' :: rest).map normSlash) := by
  obtain ⟨hsplit, hkeep⟩ := List.mem_filter.mp h
  refine List.mem_filter.mpr ⟨?_, hkeep⟩
  refine mem_splitOn_map rfl (fun c hc => normSlash_of_ne fun heq => hback (heq ▸ hc)) ?_
  rw [splitOn_cut]
  exact List.mem_append_left _ hsplit

/-! ## Settled rules -/

/-- A plain name: no wildcard, no set and no slash. -/
def plainRule (pattern : Text) : Bool :=
  !pattern.contains '*' && !pattern.contains '?' && !pattern.contains '/'
    && pattern != [] && pattern != ['.']

/-- A rule with a slash that ends in a star; two slashes before the stars do not count. -/
def openRule (pattern : Text) : Bool :=
  pattern.contains '/' && pattern.getLast? == some '*'
    && !(directoryRule pattern && (beforeStars pattern).getLast? == some '/')

/-- A rule that excludes what is below the directories it matches. -/
def settledRule (pattern : Text) : Bool :=
  !pattern.contains '[' && !pattern.contains '\\' && (plainRule pattern || openRule pattern)

/-- What a rule can match by. -/
theorem ruleMatches_cases (h : ruleMatches path pattern = true) :
    fnmatch (pathName path) pattern = true ∨ fnmatch path pattern = true ∨
      '/' ∉ pattern ∧ '*' ∉ pattern ∧ pattern ∈ pathParts path ∨
      directoryRule pattern = true ∧ (beforeStars pattern ++ ['/'] <+: path ∨
        path = beforeStars pattern ∨ beforeStars pattern ∈ pathParts path) := by
  rw [ruleMatches] at h
  rcases Bool.or_eq_true_iff.mp h with h | h
  · rcases Bool.or_eq_true_iff.mp h with h | h
    · rcases Bool.or_eq_true_iff.mp h with h | h
      · exact .inl h
      · exact .inr (.inl h)
    · obtain ⟨h, hpart⟩ := Bool.and_eq_true_iff.mp h
      obtain ⟨h, hstar⟩ := Bool.and_eq_true_iff.mp h
      obtain ⟨_, hslash⟩ := Bool.and_eq_true_iff.mp h
      refine .inr (.inr (.inl ⟨fun hmem => ?_, fun hmem => ?_, List.contains_iff_mem.mp hpart⟩))
      · rw [List.contains_iff_mem.mpr hmem] at hslash
        exact nomatch hslash
      · rw [List.contains_iff_mem.mpr hmem] at hstar
        exact nomatch hstar
  · obtain ⟨hdir, h⟩ := Bool.and_eq_true_iff.mp h
    refine .inr (.inr (.inr ⟨hdir, ?_⟩))
    rcases Bool.or_eq_true_iff.mp h with h | h
    · rcases Bool.or_eq_true_iff.mp h with h | h
      · exact .inl (List.isPrefixOf_iff_prefix.mp h)
      · exact .inr (.inl (beq_iff_eq.mp h))
    · exact .inr (.inr (List.contains_iff_mem.mp h))

theorem ruleMatches_of_fnmatch (h : fnmatch path pattern = true) :
    ruleMatches path pattern = true := by
  rw [ruleMatches, h, Bool.or_true, Bool.true_or, Bool.true_or]

theorem ruleMatches_of_name (hslash : '/' ∉ pattern) (hstar : '*' ∉ pattern)
    (h : pattern ∈ pathParts path) : ruleMatches path pattern = true := by
  have hdir : directoryRule pattern = false := by
    refine Bool.eq_false_iff.mpr fun hdir => ?_
    exact hslash ((List.isSuffixOf_iff_suffix.mp hdir).subset List.mem_cons_self)
  have hnoslash : pattern.contains '/' = false :=
    Bool.eq_false_iff.mpr fun hc => hslash (List.contains_iff_mem.mp hc)
  have hnostar : pattern.contains '*' = false :=
    Bool.eq_false_iff.mpr fun hc => hstar (List.contains_iff_mem.mp hc)
  have hmem : (pathParts path).contains pattern = true := List.contains_iff_mem.mpr h
  rw [ruleMatches, hdir, hnoslash, hnostar, hmem]
  exact Bool.or_eq_true_iff.mpr (.inl (Bool.or_eq_true_iff.mpr (.inr rfl)))

theorem ruleMatches_of_directory (hdir : directoryRule pattern = true)
    (h : beforeStars pattern ++ ['/'] <+: path ∨ beforeStars pattern ∈ pathParts path) :
    ruleMatches path pattern = true := by
  rw [ruleMatches, hdir]
  refine Bool.or_eq_true_iff.mpr (.inr (Bool.and_eq_true_iff.mpr ⟨rfl, ?_⟩))
  rcases h with h | h
  · exact Bool.or_eq_true_iff.mpr (.inl (Bool.or_eq_true_iff.mpr (.inl
      (List.isPrefixOf_iff_prefix.mpr h))))
  · exact Bool.or_eq_true_iff.mpr (.inr (List.contains_iff_mem.mpr h))

theorem notMem_of_not_contains {c : Char} (h : (!pattern.contains c) = true) :
    c ∉ pattern := by
  intro hmem
  rw [List.contains_iff_mem.mpr hmem] at h
  exact nomatch h

/-- A plain name that matches a directory is one of its components. -/
theorem plain_component (hset : '[' ∉ rule) (hplain : plainRule rule = true)
    {path : Text} (hpath : path = above ∨ path = above ++ ['/'])
    (h : ruleMatches path rule = true) : rule ∈ components above := by
  obtain ⟨hplain, hdot⟩ := Bool.and_eq_true_iff.mp hplain
  obtain ⟨hplain, hne⟩ := Bool.and_eq_true_iff.mp hplain
  obtain ⟨hplain, hslash⟩ := Bool.and_eq_true_iff.mp hplain
  obtain ⟨hstar, hany⟩ := Bool.and_eq_true_iff.mp hplain
  replace hslash := notMem_of_not_contains hslash
  replace hstar := notMem_of_not_contains hstar
  replace hany := notMem_of_not_contains hany
  have hcomponents : components path = components above := by
    rcases hpath with rfl | rfl
    · rfl
    · exact components_slash above
  rw [← hcomponents]
  rcases ruleMatches_cases h with hname | hwhole | ⟨_, _, hpart⟩ | ⟨hdir, _⟩
  · have heq := eq_of_fnmatch hset hstar hany hname
    rw [← heq] at hne ⊢
    exact pathName_mem (bne_iff_ne.mp hne)
  · -- the whole path is the name, so it is its only component
    have heq := eq_of_fnmatch hset hstar hany hwhole
    rw [heq, components, splitOn_of_not_mem hslash]
    exact List.mem_filter.mpr ⟨List.mem_cons_self, Bool.and_eq_true_iff.mpr ⟨hne, hdot⟩⟩
  · rcases mem_pathParts hpart with hcomp | hroot
    · exact hcomp
    · exact absurd (List.mem_of_getLast? hroot) hslash
  · exact absurd ((List.isSuffixOf_iff_suffix.mp hdir).subset List.mem_cons_self) hslash

/-- A settled rule that matches a directory excludes every path below it. -/
theorem settled_excludes (hsettled : settledRule rule = true)
    (hpath : path = above ∨ path = above ++ ['/']) (h : ruleMatches path rule = true) :
    ruleMatches ((above ++ '/' :: rest).map normSlash) rule = true := by
  obtain ⟨hsettled, hkind⟩ := Bool.and_eq_true_iff.mp hsettled
  obtain ⟨hset, hback⟩ := Bool.and_eq_true_iff.mp hsettled
  replace hset := notMem_of_not_contains hset
  replace hback := notMem_of_not_contains hback
  have hkept : ∀ c ∈ rule, normSlash c = c := fun c hc =>
    normSlash_of_ne fun heq => hback (heq ▸ hc)
  rcases Bool.or_eq_true_iff.mp hkind with hplain | hopen
  · have hcomp := plain_component hset hplain hpath h
    obtain ⟨hplain, _⟩ := Bool.and_eq_true_iff.mp hplain
    obtain ⟨hplain, _⟩ := Bool.and_eq_true_iff.mp hplain
    obtain ⟨hplain, hslash⟩ := Bool.and_eq_true_iff.mp hplain
    obtain ⟨hstar, _⟩ := Bool.and_eq_true_iff.mp hplain
    exact ruleMatches_of_name (notMem_of_not_contains hslash) (notMem_of_not_contains hstar)
      (mem_pathParts_of_component (component_below hback hcomp))
  · obtain ⟨hopen, hdouble⟩ := Bool.and_eq_true_iff.mp hopen
    obtain ⟨hslash, hlast⟩ := Bool.and_eq_true_iff.mp hopen
    replace hslash : '/' ∈ rule := List.contains_iff_mem.mp hslash
    replace hlast : rule.getLast? = some '*' := beq_iff_eq.mp hlast
    -- the path that was matched begins every path below the directory
    obtain ⟨more, hmore⟩ : ∃ more, above ++ '/' :: rest = path ++ more := by
      rcases hpath with rfl | rfl
      · exact ⟨'/' :: rest, rfl⟩
      · exact ⟨rest, (List.append_assoc above ['/'] rest).symm⟩
    rcases ruleMatches_cases h with hname | hwhole | ⟨hnoslash, _⟩ | ⟨hdir, hbefore⟩
    · exact absurd (mem_of_fnmatch hset hslash (by decide) (by decide) hname)
        (slash_notMem_pathName path)
    · rw [hmore]
      exact ruleMatches_of_fnmatch (fnmatch_map hset hkept (fnmatch_extend hset hlast more hwhole))
    · exact absurd hslash hnoslash
    · have hend : (beforeStars rule).getLast? ≠ some '/' := by
        intro heq
        rw [hdir, heq] at hdouble
        exact nomatch hdouble
      have hbeforeKept : (beforeStars rule ++ ['/']).map normSlash = beforeStars rule ++ ['/'] := by
        refine map_eq_self fun c hc => ?_
        rcases List.mem_append.mp hc with hc | hc
        · exact hkept c (List.mem_of_mem_take hc)
        · rw [List.mem_singleton.mp hc]
          rfl
      have hprefix : beforeStars rule ++ ['/'] <+: above ++ '/' :: rest →
          ruleMatches ((above ++ '/' :: rest).map normSlash) rule = true := by
        intro hstart
        have hmapped := hstart.map normSlash
        rw [hbeforeKept] at hmapped
        exact ruleMatches_of_directory hdir (.inl hmapped)
      rcases hbefore with hstart | heq | hpart
      · refine hprefix (hstart.trans ?_)
        rw [hmore]
        exact List.prefix_append path more
      · rcases hpath with rfl | rfl
        · refine hprefix ?_
          rw [heq]
          exact ⟨rest, by rw [List.append_assoc]; rfl⟩
        · rw [← heq, List.getLast?_concat] at hend
          exact absurd rfl hend
      · rcases mem_pathParts hpart with hcomp | hroot
        · have habove : beforeStars rule ∈ components above := by
            rcases hpath with rfl | rfl
            · exact hcomp
            · rw [components_slash] at hcomp
              exact hcomp
          have hbefore : '\\' ∉ beforeStars rule := fun hmem => hback (List.mem_of_mem_take hmem)
          exact ruleMatches_of_directory hdir (.inr (mem_pathParts_of_component
            (component_below hbefore habove)))
        · exact absurd hroot hend

theorem not_accepted_of_excluded {rules : IncludeExcludeFilter}
    (hrule : rule ∈ rules.excludes) (h : ruleMatches (path.map normSlash) rule = true) :
    (rules.classify path).1 = false := by
  rw [IncludeExcludeFilter.classify]
  cases hfind : rules.excludes.find? (ruleMatches (path.map normSlash)) with
  | none => exact absurd h (List.find?_eq_none.mp hfind rule hrule)
  | some pattern => rfl

/-! ## What pruning leaves out -/

theorem pruned_iff {dirRel : Text} :
    pruned rules dirRel = true ↔ ∃ rule ∈ rules,
      ruleMatches dirRel rule = true ∨ ruleMatches (dirRel ++ ['/']) rule = true := by
  rw [pruned, List.any_eq_true]
  exact ⟨fun ⟨rule, hrule, h⟩ => ⟨rule, hrule, Bool.or_eq_true_iff.mp h⟩,
    fun ⟨rule, hrule, h⟩ => ⟨rule, hrule, Bool.or_eq_true_iff.mpr h⟩⟩

/-- A file that is dropped lies below a pruned directory. -/
theorem pruned_of_dropped (hproper : tree.Proper) (h : file ∈ dropped rules relDir tree) :
    ∃ above rest, file.1 = above ++ '/' :: rest ∧ pruned rules above = true := by
  induction tree generalizing relDir with
  | nil => exact nomatch h
  | file name size rest ih => exact ih hproper.2.2 h
  | link name rest ih => exact ih hproper.2.2 h
  | dir name inside rest ihinside ihrest =>
    obtain ⟨hname, _, hinside, hrest⟩ := hproper
    rw [dropped] at h
    by_cases hpruned : pruned rules (joinRel relDir name) = true
    · rw [if_pos hpruned] at h
      rcases List.mem_append.mp h with h | h
      · obtain ⟨below, _, more, hpath, _⟩ := mem_allFiles hinside h
        refine ⟨joinRel relDir name, below ++ more, ?_, hpruned⟩
        rw [hpath, joinRel_of_ne (joinRel_ne_nil hname.1)]
      · exact ihrest hrest h
    · rw [if_neg hpruned] at h
      rcases List.mem_append.mp h with h | h
      · exact ihinside hinside h
      · exact ihrest hrest h

theorem mem_allFiles_of_seen (h : file ∈ seen rules relDir tree) :
    file ∈ tree.allFiles relDir :=
  (allFiles_perm rules relDir tree).mem_iff.mpr (List.mem_append_left _ h)

/-- No directory between the start of the walk and a file it meets is pruned. -/
theorem not_pruned_of_seen (hproper : tree.Proper) (h : file ∈ seen rules relDir tree)
    (hpath : file.1 = joinRel relDir (above ++ '/' :: rest)) :
    pruned rules (joinRel relDir above) = false := by
  induction tree generalizing relDir above rest with
  | nil => exact nomatch h
  | file name size others ih =>
    obtain ⟨hname, _, hothers⟩ := hproper
    rcases List.mem_cons.mp h with rfl | h
    · have heq : name = above ++ '/' :: rest := joinRel_inj hpath
      exact absurd (heq ▸ List.mem_append_right above List.mem_cons_self) hname.2.1
    · exact ih hothers h hpath
  | link name others ih => exact ih hproper.2.2 h hpath
  | dir name inside others ihinside ihothers =>
    obtain ⟨hname, _, hinside, hothers⟩ := hproper
    rw [seen] at h
    by_cases hpruned : pruned rules (joinRel relDir name) = true
    · rw [if_pos hpruned] at h
      exact ihothers hothers h hpath
    · rw [if_neg hpruned] at h
      rcases List.mem_append.mp h with h | h
      · obtain ⟨below, _, more, hbelow, _⟩ := mem_allFiles hinside (mem_allFiles_of_seen h)
        have hcut : name ++ '/' :: (below ++ more) = above ++ '/' :: rest := by
          have hjoined : joinRel relDir (name ++ '/' :: (below ++ more))
              = joinRel relDir (above ++ '/' :: rest) := by
            rw [← joinRel_joinRel hname.1, ← hbelow, hpath]
          exact joinRel_inj hjoined
        -- the directory itself, or one below it
        rcases cut_at_slash hname.2.1 hcut with ⟨heq, _⟩ | ⟨deeper, heq, hdeeper⟩
        · rw [heq]
          exact Bool.eq_false_iff.mpr hpruned
        · rw [heq, ← joinRel_joinRel hname.1]
          have hpath' : file.1 = joinRel (joinRel relDir name) (deeper ++ '/' :: rest) := by
            rw [hbelow, hdeeper]
          exact ihinside hinside h hpath'
      · exact ihothers hothers h hpath

/-! ## The files a scan includes -/

/-- Without a budget the ledger keeps what `classify` accepts. -/
theorem included_unbounded (rules : IncludeExcludeFilter) (files : List (Text × Option Nat)) :
    (files.foldl (Ledger.enter rules 0) {}).included =
      (files.map Prod.fst).filter fun path => (rules.classify path).1 := by
  have hfrom : ∀ ledger : Ledger, (files.foldl (Ledger.enter rules 0) ledger).included =
      ledger.included ++ (files.map Prod.fst).filter fun path => (rules.classify path).1 := by
    induction files with
    | nil => exact fun ledger => (List.append_nil _).symm
    | cons file rest ih =>
      intro ledger
      rw [List.foldl_cons, ih, List.map_cons, Ledger.enter]
      cases hclass : (rules.classify file.1).1 with
      | true =>
        rw [if_neg (by simp), List.filter_cons, hclass, if_pos rfl]
        exact List.append_assoc _ _ _
      | false => rw [if_pos (by simp), List.filter_cons, hclass, if_neg Bool.false_ne_true]
  exact hfrom {}

theorem sortTexts_perm (texts : List Text) : (sortTexts texts).Perm texts :=
  List.perm_insertionSort _ texts

/-- Lists with the same elements are sorted alike. -/
theorem sortTexts_eq {texts others : List Text} (h : texts.Perm others) :
    sortTexts texts = sortTexts others := by
  refine List.Perm.eq_of_pairwise (fun a b _ _ => le_antisymm)
    (List.pairwise_insertionSort _ texts) (List.pairwise_insertionSort _ others) ?_
  exact (sortTexts_perm texts).trans (h.trans (sortTexts_perm others).symm)

section Scan

variable (lower : Text → Text) (root : Text) (rules : IncludeExcludeFilter) (tree : Tree)

/-- The files that `classify` accepts, pruning apart. -/
def acceptedFiles (rules : IncludeExcludeFilter) (tree : Tree) : List Text :=
  sortTexts (((tree.entries.allFiles []).map Prod.fst).filter fun path => (rules.classify path).1)

theorem includedFiles_eq :
    (scanRepo lower root rules 0 tree).includedFiles =
      sortTexts (((seen rules.excludes [] tree.entries).map Prod.fst).filter fun path =>
        (rules.classify path).1) := by
  show sortTexts (scanVisits lower rules 0 _).ledger.included = _
  rw [ledger_scanVisits, included_unbounded]
  exact sortTexts_eq (((turnFiles_visits rules.excludes _ tree.entries).map Prod.fst).filter _)

/-- The scan includes exactly the files that `classify` accepts, if and only if none of them
    lies below a directory that an exclude rule matches without being settled. -/
theorem included_iff_no_loose :
    (scanRepo lower root rules 0 tree).includedFiles = acceptedFiles rules tree ↔
      ∀ file ∈ tree.entries.allFiles [], (rules.classify file.1).1 = true →
        ∀ above rest, file.1 = above ++ '/' :: rest →
          ∀ rule ∈ rules.excludes, settledRule rule = false →
            ¬(ruleMatches above rule = true ∨ ruleMatches (above ++ ['/']) rule = true) := by
  rw [includedFiles_eq]
  constructor
  · intro heq file hfile haccepted above rest hpath rule hrule _ hmatch
    have hmem : file.1 ∈ acceptedFiles rules tree :=
      (sortTexts_perm _).mem_iff.mpr
        (List.mem_filter.mpr ⟨List.mem_map_of_mem hfile, haccepted⟩)
    rw [← heq] at hmem
    obtain ⟨hseen, _⟩ := List.mem_filter.mp ((sortTexts_perm _).mem_iff.mp hmem)
    obtain ⟨met, hmet, hsame⟩ := List.mem_map.mp hseen
    have habove : met.1 = joinRel [] (above ++ '/' :: rest) := by rw [joinRel_nil, hsame, hpath]
    have hkept := not_pruned_of_seen tree.proper hmet habove
    rw [joinRel_nil, pruned_iff.mpr ⟨rule, hrule, hmatch⟩] at hkept
    exact nomatch hkept
  · intro hloose
    have hnone : (((dropped rules.excludes [] tree.entries).map Prod.fst).filter fun path =>
        (rules.classify path).1) = [] := by
      refine List.filter_eq_nil_iff.mpr fun path hpath haccepted => ?_
      obtain ⟨file, hfile, rfl⟩ := List.mem_map.mp hpath
      obtain ⟨above, rest, hbelow, hpruned⟩ := pruned_of_dropped tree.proper hfile
      obtain ⟨rule, hrule, hmatch⟩ := pruned_iff.mp hpruned
      have hall : file ∈ tree.entries.allFiles [] :=
        (allFiles_perm rules.excludes [] tree.entries).mem_iff.mpr (List.mem_append_right _ hfile)
      cases hsettled : settledRule rule with
      | false => exact hloose file hall haccepted above rest hbelow rule hrule hsettled hmatch
      | true =>
        -- a settled rule excludes the file itself
        have hexcluded : ruleMatches (file.1.map normSlash) rule = true := by
          rw [hbelow]
          rcases hmatch with hmatch | hmatch
          · exact settled_excludes hsettled (.inl rfl) hmatch
          · exact settled_excludes hsettled (.inr rfl) hmatch
        rw [not_accepted_of_excluded hrule hexcluded] at haccepted
        exact nomatch haccepted
    refine sortTexts_eq ?_
    refine ((((allFiles_perm rules.excludes [] tree.entries).map Prod.fst).filter _).trans ?_).symm
    rw [List.map_append, List.filter_append, hnone, List.append_nil]

end Scan

/-- A source file in a directory that is named like an archive. -/
def zippedTree : Tree where
  entries := .dir "foo.zip".toList (.file "a.py".toList (some 3) .nil) .nil
  proper := by
    refine ⟨⟨?_, ?_, ?_, ?_⟩, ?_, ⟨⟨?_, ?_, ?_, ?_⟩, ?_, trivial⟩, trivial⟩ <;> decide

/-- With the default rules the scan drops a file that `classify` accepts. -/
theorem zipped_file_lost :
    (scanRepo id "/repo".toList (includeExcludeFilter [] []) 0 zippedTree).includedFiles = [] ∧
      acceptedFiles (includeExcludeFilter [] []) zippedTree = ["foo.zip/a.py".toList] ∧
      ¬∀ (lower : Text → Text) (root : Text) (extraIncludes extraExcludes : List Text)
        (tree : Tree),
        (scanRepo lower root (includeExcludeFilter extraIncludes extraExcludes) 0
            tree).includedFiles =
          acceptedFiles (includeExcludeFilter extraIncludes extraExcludes) tree := by
  have hscan : (scanRepo id "/repo".toList (includeExcludeFilter [] []) 0
      zippedTree).includedFiles = [] := by decide
  have haccepted : acceptedFiles (includeExcludeFilter [] []) zippedTree =
      ["foo.zip/a.py".toList] := by decide
  refine ⟨hscan, haccepted, fun h => ?_⟩
  have heq := h id "/repo".toList [] [] zippedTree
  rw [hscan, haccepted] at heq
  exact nomatch heq

end KeyholeScan
