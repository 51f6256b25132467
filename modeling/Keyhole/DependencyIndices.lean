import Keyhole.MajorConflicts

/-!
# The indices of dependency issues

Three passes walk the `dependencies` list of a file and name an element in the field of each
issue.  `parse_dependencies_list` and the strict provider check number the list as it stands in
the file.  `validate_dependencies` numbers the mappings that the parser kept, so that an element
dropped before an entry moves the entry's number down.

* `Faulty`: the entries the second pass has something against;
* `PointsRight`: every issue at an index is about the element at that index;
* `pointsRight_iff`: it is, unless something that is no mapping stands before a faulty entry. -/

namespace KeyholeIndices

open KeyholeYaml KeyholeNamespace KeyholeValidation KeyholePipeline KeyholeTotality ExceptLoops
open KeyholeJson (startsWith)

/-! ## What an issue is about -/

/-- The field of the issue begins with `dependencies[idx]`. -/
def At (issue : ValidationIssue) (idx : Nat) : Prop :=
  ∃ suffix, issue.field = indexed "dependencies" idx ++ suffix

/-- `seen_capabilities` after an entry. -/
def noteName (seen : List String) (dep : Fields) : List String :=
  match Fields.getOr dep "capability" (.str "") with
  | .str name => if name = "" then seen else if seen.contains name then seen else name :: seen
  | _ => seen

/-- The names the entries before an index bear. -/
def earlierNames (items : List Yaml) (idx : Nat) : List String :=
  (mappings (items.take idx)).foldl noteName []

/-- The parser says this of the element at the index. -/
def ShapeConcerns (fname : String) (items : List Yaml) (idx : Nat) (issue : ValidationIssue) :
    Prop :=
  ∃ item, items[idx]? = some item ∧ issue ∈ dependencyShape fname (item, idx)

/-- The check of the entries says this of the element at the index. -/
def EntryConcerns (fname : String) (items : List Yaml) (idx : Nat) (issue : ValidationIssue) :
    Prop :=
  ∃ dep, items[idx]? = some (.map dep) ∧
    issue ∈ (checkDependency fname idx (earlierNames items idx) dep).issues

/-- The strict provider check says this of the element at the index. -/
def StrictConcerns (items : List Yaml) (idx : Nat) (issue : ValidationIssue) : Prop :=
  ∃ item found, items[idx]? = some item ∧ strictEntry idx item = .ok found ∧ issue ∈ found

/-- Each issue of the three passes is about the element its field names. -/
structure PointsRight (fname : String) (data : Fields) (items : List Yaml) : Prop where
  parsed : ∀ issue ∈ (parseDependenciesList fname data).2, ∀ idx, At issue idx →
    ShapeConcerns fname items idx issue
  validated : ∀ issue ∈ (validateDependencies fname (.ok data)).1, ∀ idx, At issue idx →
    ShapeConcerns fname items idx issue ∨ EntryConcerns fname items idx issue
  strict : ∀ issues, strictProviders data = .ok issues → ∀ issue ∈ issues, ∀ idx, At issue idx →
    StrictConcerns items idx issue

/-! ## What the check has against an entry -/

/-- A `provider` that is set and is no string. -/
def BadProvider (dep : Fields) : Prop :=
  truthy (Fields.getOr dep "provider" (.str "")) = true ∧
    isText (Fields.getOr dep "provider" (.str "")) = false

/-- A `digest` that is set and is no string with a known prefix. -/
def BadDigest (dep : Fields) : Prop :=
  truthy (Fields.getOr dep "digest" (.str "")) = true ∧
    ∀ text, Fields.getOr dep "digest" (.str "") = .str text →
      digestPrefixes.any (startsWith text) = false

/-- An entry without a valid name of its own, or with a bad provider or digest. -/
def Faulty (seen : List String) (dep : Fields) : Prop :=
  ∀ name, Fields.getOr dep "capability" (.str "") = .str name → name ≠ "" →
    (validateCapabilityName name).valid = true → name ∉ seen → BadProvider dep ∨ BadDigest dep

/-- Nothing but mappings stands before a faulty entry. -/
def Unshifted (items : List Yaml) : Prop :=
  ∀ (before after : Nat) (item : Yaml) (dep : Fields), before < after →
    items[before]? = some item → isMap item = false → items[after]? = some (.map dep) →
    ¬ Faulty (earlierNames items after) dep

variable {issue : ValidationIssue} {fname : String} {idx : Nat} {dep : Fields} {items : List Yaml}

theorem providerField_eq_nil {fieldPrefix : String} :
    (providerField fname fieldPrefix (Fields.getOr dep "provider" (.str ""))).1 = [] ↔
      ¬ BadProvider dep := by
  unfold providerField BadProvider
  cases truthy (Fields.getOr dep "provider" (.str "")) <;>
    cases isText (Fields.getOr dep "provider" (.str "")) <;> simp

theorem digestField_eq_nil {fieldPrefix : String} :
    (digestField fname fieldPrefix (Fields.getOr dep "digest" (.str ""))).1 = [] ↔
      ¬ BadDigest dep := by
  unfold digestField BadDigest
  by_cases htruthy : truthy (Fields.getOr dep "digest" (.str "")) = true
  · rw [if_pos htruthy]
    split
    · rename_i text htext
      by_cases hknown : digestPrefixes.any (startsWith text) = true
      · rw [if_pos hknown]
        refine ⟨fun _ hbad => ?_, fun _ => rfl⟩
        exact nomatch hknown.symm.trans (hbad.2 text htext)
      · rw [if_neg hknown]
        refine ⟨nofun, fun hbad => absurd ⟨htruthy, ?_⟩ hbad⟩
        intro text' htext'
        rw [← Yaml.str.inj (htext.symm.trans htext')]
        exact Bool.eq_false_iff.mpr hknown
    · rename_i hother
      refine ⟨nofun, fun hbad => absurd ⟨htruthy, ?_⟩ hbad⟩
      intro text htext
      exact absurd htext (hother text)
  · rw [if_neg htruthy]
    exact ⟨fun _ hbad => htruthy hbad.1, fun _ => rfl⟩

theorem nameField_eq_nil {path cap : String} :
    validateCapabilityNameField fname path cap = [] ↔ (validateCapabilityName cap).valid = true := by
  rw [validateCapabilityNameField]
  simp

/-- The check reports an entry exactly when the entry is faulty. -/
theorem checkDependency_eq_nil {seen : List String} :
    (checkDependency fname idx seen dep).issues = [] ↔ ¬ Faulty seen dep := by
  unfold checkDependency
  simp only
  by_cases htruthy : truthy (Fields.getOr dep "capability" (.str "")) = false
  · rw [if_pos htruthy]
    refine ⟨nofun, fun hfaulty => absurd ?_ hfaulty⟩
    intro name hname hne
    rw [hname] at htruthy
    exact absurd (by simpa [truthy] using htruthy) hne
  · rw [if_neg htruthy]
    split
    · rename_i name hname
      rw [hname] at htruthy
      have hne : name ≠ "" := by simpa [truthy] using htruthy
      simp only [List.append_eq_nil_iff, nameField_eq_nil, providerField_eq_nil,
        digestField_eq_nil]
      constructor
      · rintro ⟨⟨⟨hvalid, hdup⟩, hprovider⟩, hdigest⟩ hfaulty
        have hnew : name ∉ seen := by
          intro hmem
          rw [if_pos (List.contains_iff_mem.mpr hmem)] at hdup
          exact nomatch hdup
        rcases hfaulty name hname hne hvalid hnew with h | h
        · exact hprovider h
        · exact hdigest h
      · intro hfaulty
        unfold Faulty at hfaulty
        push Not at hfaulty
        obtain ⟨name', hname', -, hvalid, hnew, hprovider, hdigest⟩ := hfaulty
        obtain rfl := Yaml.str.inj (hname.symm.trans hname')
        refine ⟨⟨⟨hvalid, ?_⟩, hprovider⟩, hdigest⟩
        rw [if_neg fun h => hnew (List.contains_iff_mem.mp h)]
    · rename_i hother
      refine ⟨nofun, fun hfaulty => absurd ?_ hfaulty⟩
      intro name hname
      exact absurd hname (hother name)

/-! ## The fields of the issues -/

theorem split_at_first {α : Type} {x : α} : ∀ {front front' back back' : List α},
    x ∉ front → x ∉ front' → front ++ x :: back = front' ++ x :: back' → front = front' := by
  intro front
  induction front with
  | nil =>
    intro front' back back' _ hfront' h
    cases front' with
    | nil => rfl
    | cons y rest =>
      obtain ⟨rfl, -⟩ := List.cons.inj h
      exact absurd List.mem_cons_self hfront'
  | cons y rest ih =>
    intro front' back back' hfront hfront' h
    cases front' with
    | nil =>
      obtain ⟨rfl, -⟩ := List.cons.inj h
      exact absurd List.mem_cons_self hfront
    | cons y' rest' =>
      obtain ⟨hy, htail⟩ := List.cons.inj h
      rw [hy, ih (fun hmem => hfront (List.mem_cons_of_mem _ hmem))
        (fun hmem => hfront' (List.mem_cons_of_mem _ hmem)) htail]

/-- A field names one index. -/
theorem At.unique {i j : Nat} (hi : At issue i) (hj : At issue j) :
    i = j := by
  obtain ⟨suffix, hsuffix⟩ := hi
  obtain ⟨suffix', hsuffix'⟩ := hj
  have htext := congrArg String.toList (hsuffix.symm.trans hsuffix')
  have hclose : "]".toList = [']'] := rfl
  simp only [indexed, String.toList_append, List.append_assoc, hclose] at htext
  have hdigits : (toString i).toList = (toString j).toList := by
    have hbracket : (']').isDigit = false := by decide
    have hrun : (toString i).toList ++ ']' :: suffix.toList =
        (toString j).toList ++ ']' :: suffix'.toList :=
      List.append_cancel_left (List.append_cancel_left htext)
    exact split_at_first (KeyholeMajors.not_mem_digits hbracket i)
      (KeyholeMajors.not_mem_digits hbracket j) hrun
  exact KeyholeJson.repr_agree (String.toList_inj.mp hdigits)

theorem at_shape {item : Yaml} (h : issue ∈ dependencyShape fname (item, idx)) :
    At issue idx ∧ issue.reason = .dependencyMustBeMapping := by
  unfold dependencyShape at h
  split at h
  · exact nomatch h
  · rw [List.mem_singleton.mp h]
    exact ⟨⟨"", by simp⟩, rfl⟩

/-- What the check of an entry reports, it reports under the entry's index and for a reason
    of its own. -/
theorem at_entry {seen : List String} (h : issue ∈ (checkDependency fname idx seen dep).issues) :
    At issue idx ∧ issue.reason ≠ .dependencyMustBeMapping := by
  unfold checkDependency at h
  simp only at h
  split at h
  · rw [List.mem_singleton.mp h]
    exact ⟨⟨".capability", rfl⟩, nofun⟩
  · split at h
    · rcases List.mem_append.mp h with h | h
      · rcases List.mem_append.mp h with h | h
        · rcases List.mem_append.mp h with h | h
          · unfold validateCapabilityNameField at h
            simp only at h
            split at h
            · exact nomatch h
            · rw [List.mem_singleton.mp h]
              exact ⟨⟨".capability", rfl⟩, nofun⟩
          · split at h
            · rw [List.mem_singleton.mp h]
              exact ⟨⟨".capability", rfl⟩, nofun⟩
            · exact nomatch h
        · unfold providerField at h
          split at h
          · rw [List.mem_singleton.mp h]
            exact ⟨⟨".provider", rfl⟩, nofun⟩
          · exact nomatch h
      · unfold digestField at h
        split at h
        · split at h
          · split at h
            · exact nomatch h
            · rw [List.mem_singleton.mp h]
              exact ⟨⟨".digest", rfl⟩, nofun⟩
          · rw [List.mem_singleton.mp h]
            exact ⟨⟨".digest", rfl⟩, nofun⟩
        · exact nomatch h
    · rw [List.mem_singleton.mp h]
      exact ⟨⟨".capability", rfl⟩, nofun⟩

/-! ## Positions -/

/-- The number the second pass gives to the entry at an index of the file. -/
def rank (items : List Yaml) (idx : Nat) : Nat := (mappings (items.take idx)).length

theorem mappings_append (items more : List Yaml) :
    mappings (items ++ more) = mappings items ++ mappings more := by
  induction items with
  | nil => rfl
  | cons item rest ih =>
    cases item with
    | map entries =>
      rw [List.cons_append]
      show entries :: mappings (rest ++ more) = entries :: mappings rest ++ mappings more
      rw [ih, List.cons_append]
    | _ => exact ih

theorem rank_succ_of_map
    (h : items[idx]? = some (.map dep)) : rank items (idx + 1) = rank items idx + 1 := by
  unfold rank
  rw [List.take_add_one, h, mappings_append, List.length_append]
  rfl

theorem rank_mono (items : List Yaml) {i j : Nat} (h : i ≤ j) : rank items i ≤ rank items j := by
  obtain ⟨extra, rfl⟩ := Nat.exists_eq_add_of_le h
  unfold rank
  rw [List.take_add, mappings_append, List.length_append]
  exact Nat.le_add_right _ _

theorem mappings_length_le (items : List Yaml) : (mappings items).length ≤ items.length := by
  induction items with
  | nil => exact Nat.le_refl _
  | cons item rest ih =>
    cases item with
    | map entries => exact Nat.succ_le_succ ih
    | _ => exact Nat.le_succ_of_le ih

theorem rank_le (items : List Yaml) (idx : Nat) : rank items idx ≤ idx :=
  Nat.le_trans (mappings_length_le _) (by rw [List.length_take]; omega)

/-- Where only mappings stand before an entry, it keeps its number. -/
theorem rank_eq_of_maps : ∀ {idx : Nat}, idx ≤ items.length →
    (∀ before item, before < idx → items[before]? = some item → isMap item = true) →
    rank items idx = idx := by
  intro idx
  induction idx with
  | zero =>
    intro _ _
    rfl
  | succ idx ih =>
    intro hlength hmaps
    have hget : items[idx]? = some items[idx] := List.getElem?_eq_getElem hlength
    cases hitem : items[idx] with
    | map dep =>
      rw [hitem] at hget
      rw [rank_succ_of_map hget, ih (Nat.le_of_succ_le hlength)
        fun before item hlt => hmaps before item (Nat.lt_succ_of_lt hlt)]
    | _ =>
      rw [hitem] at hget
      exact nomatch hmaps idx _ (Nat.lt_succ_self idx) hget

/-- Something else before it moves the number of an entry down. -/
theorem rank_lt_of_other {before : Nat} {item : Yaml} (hlt : before < idx)
    (hitem : items[before]? = some item) (hother : isMap item = false) : rank items idx < idx := by
  have hsame : rank items (before + 1) = rank items before := by
    unfold rank
    rw [List.take_add_one, hitem, mappings_append]
    cases item with
    | map dep => exact nomatch hother
    | _ => exact congrArg List.length (List.append_nil _)
  have hbefore := rank_le items before
  obtain ⟨extra, rfl⟩ := Nat.exists_eq_add_of_lt hlt
  have hgrow : rank items (before + extra + 1) ≤ rank items (before + 1) + extra := by
    unfold rank
    have htake : items.take (before + extra + 1) =
        items.take (before + 1) ++ (items.drop (before + 1)).take extra := by
      rw [← List.take_add]
      congr 1
      omega
    rw [htake, mappings_append, List.length_append]
    have hmore := mappings_length_le ((items.drop (before + 1)).take extra)
    have hshort : ((items.drop (before + 1)).take extra).length ≤ extra := by
      rw [List.length_take]
      omega
    omega
  omega

/-! ## The passes, element by element -/

theorem checkDependency_seen (fname : String) (idx : Nat) (seen : List String) (dep : Fields) :
    (checkDependency fname idx seen dep).seen = noteName seen dep := by
  unfold checkDependency noteName
  simp only
  cases Fields.getOr dep "capability" (.str "") with
  | str name =>
    by_cases hname : name = ""
    · rw [hname]
      rfl
    · rw [if_neg (show ¬ truthy (.str name) = false by simpa [truthy] using hname)]
      simp only
      rw [if_neg hname]
  | _ =>
    split <;> rfl

/-- The loop over the kept entries reports what the check says of each, with the names of the
    entries before it. -/
theorem mem_checkDependencies :
    ∀ {deps : List Fields} {idx : Nat} {seen : List String},
      issue ∈ (checkDependencies fname idx seen deps).1 ↔
        ∃ before dep after, deps = before ++ dep :: after ∧
          issue ∈ (checkDependency fname (idx + before.length)
            (before.foldl noteName seen) dep).issues := by
  intro deps
  induction deps with
  | nil =>
    intro idx seen
    constructor
    · intro h
      exact nomatch h
    · rintro ⟨before, dep, after, hsplit, -⟩
      exact absurd hsplit (by simp)
  | cons dep rest ih =>
    intro idx seen
    show issue ∈ _ ++ _ ↔ _
    rw [List.mem_append, ih, checkDependency_seen]
    constructor
    · rintro (h | ⟨before, dep', after, rfl, h⟩)
      · exact ⟨[], dep, rest, rfl, h⟩
      · refine ⟨dep :: before, dep', after, rfl, ?_⟩
        rw [List.length_cons, show idx + (before.length + 1) = idx + 1 + before.length by omega]
        exact h
    · rintro ⟨before, dep', after, hsplit, h⟩
      cases before with
      | nil =>
        obtain ⟨rfl, rfl⟩ := List.cons.inj hsplit
        exact .inl h
      | cons first before =>
        obtain ⟨rfl, hrest⟩ := List.cons.inj hsplit
        refine .inr ⟨before, dep', after, hrest, ?_⟩
        rw [List.length_cons, show idx + (before.length + 1) = idx + 1 + before.length by omega] at h
        exact h

/-- The kept entries, each with its place in the file. -/
theorem mappings_split : ∀ {before after : List Fields} {dep : Fields},
    mappings items = before ++ dep :: after ↔
      ∃ idx, items[idx]? = some (.map dep) ∧ mappings (items.take idx) = before ∧
        mappings (items.drop (idx + 1)) = after := by
  intro before after dep
  constructor
  · intro h
    induction items generalizing before with
    | nil => exact absurd h.symm (by simp [mappings])
    | cons item rest ih =>
      cases item with
      | map entries =>
        cases before with
        | nil =>
          obtain ⟨rfl, hafter⟩ := List.cons.inj h
          exact ⟨0, rfl, rfl, hafter⟩
        | cons first before =>
          obtain ⟨hfirst, hrest⟩ := List.cons.inj h
          obtain ⟨idx, hidx, hbefore, hafter⟩ := ih hrest
          refine ⟨idx + 1, hidx, ?_, hafter⟩
          rw [List.take_succ_cons, ← hbefore]
          exact congrArg (· :: _) hfirst
      | _ =>
        obtain ⟨idx, hidx, hbefore, hafter⟩ := ih h
        exact ⟨idx + 1, hidx, hbefore, hafter⟩
  · rintro ⟨idx, hidx, rfl, rfl⟩
    obtain ⟨hlt, hget⟩ := List.getElem?_eq_some_iff.mp hidx
    have hsplit : items = items.take idx ++ (.map dep :: items.drop (idx + 1)) := by
      rw [← hget, List.getElem_cons_drop hlt, List.take_append_drop]
    nth_rewrite 1 [hsplit]
    rw [mappings_append]
    rfl

section

variable {fname : String} {data : Fields} {items : List Yaml}

theorem mem_parsed (hitems : Fields.get data "dependencies" = .seq items)
    :
    issue ∈ (parseDependenciesList fname data).2 ↔ ∃ idx, ShapeConcerns fname items idx issue := by
  unfold parseDependenciesList ShapeConcerns
  rw [hitems]
  simp only [List.mem_flatMap, Prod.exists, List.mem_zipIdx_iff_getElem?]
  constructor
  · rintro ⟨item, idx, hget, h⟩
    exact ⟨idx, item, hget, h⟩
  · rintro ⟨idx, item, hget, h⟩
    exact ⟨item, idx, hget, h⟩

theorem mem_validated (hitems : Fields.get data "dependencies" = .seq items)
    :
    issue ∈ (validateDependencies fname (.ok data)).1 ↔
      (∃ idx, ShapeConcerns fname items idx issue) ∨
      ∃ idx dep, items[idx]? = some (.map dep) ∧
        issue ∈ (checkDependency fname (rank items idx) (earlierNames items idx) dep).issues := by
  have hkept : (parseDependenciesList fname data).1 = mappings items := by
    unfold parseDependenciesList
    rw [hitems]
  show issue ∈ _ ++ _ ↔ _
  rw [List.mem_append, mem_parsed hitems, mem_checkDependencies, hkept]
  apply or_congr Iff.rfl
  constructor
  · rintro ⟨before, dep, after, hsplit, h⟩
    obtain ⟨idx, hidx, rfl, rfl⟩ := mappings_split.mp hsplit
    rw [Nat.zero_add] at h
    exact ⟨idx, dep, hidx, h⟩
  · rintro ⟨idx, dep, hidx, h⟩
    refine ⟨_, dep, _, mappings_split.mpr ⟨idx, hidx, rfl, rfl⟩, ?_⟩
    rw [Nat.zero_add]
    exact h

theorem mem_collect {each : Nat → Yaml → Except Raised (List ValidationIssue)}
    : ∀ {items : List Yaml} {start : Nat} {found : List ValidationIssue},
      collect each start items = .ok found → issue ∈ found →
      ∃ idx item here, items[idx]? = some item ∧ each (start + idx) item = .ok here ∧
        issue ∈ here := by
  intro items
  induction items with
  | nil =>
    intro start found hrun hmem
    cases hrun
    exact nomatch hmem
  | cons item rest ih =>
    intro start found hrun hmem
    rw [collect_cons] at hrun
    obtain ⟨here, hhere, hrun⟩ := bind_ok.mp hrun
    obtain ⟨later, hlater, hrun⟩ := bind_ok.mp hrun
    cases hrun
    rcases List.mem_append.mp hmem with hmem | hmem
    · exact ⟨0, item, here, rfl, hhere, hmem⟩
    · obtain ⟨idx, item', here', hget, heach, hmem'⟩ := ih hlater hmem
      refine ⟨idx + 1, item', here', hget, ?_, hmem'⟩
      rw [show start + (idx + 1) = start + 1 + idx by omega]
      exact heach

/-- The strict check numbers the list of the file. -/
theorem strict_right (hitems : Fields.get data "dependencies" = .seq items)
    {issues : List ValidationIssue} (hrun : strictProviders data = .ok issues)
    (hmem : issue ∈ issues) (hat : At issue idx) :
    StrictConcerns items idx issue := by
  obtain ⟨walkedItems, hwalked, hcollect⟩ := bind_ok.mp hrun
  rw [walked_eq hwalked, hitems, elementsOf_seq] at hcollect
  obtain ⟨position, item, here, hget, heach, hissue⟩ := mem_collect hcollect hmem
  rw [Nat.zero_add] at heach
  have hplace : At issue position := by
    unfold strictEntry at heach
    split at heach
    · split at heach
      · obtain ⟨given, -, hpure⟩ := bind_ok.mp heach
        rw [← Except.ok.inj hpure] at hissue
        split at hissue
        · exact nomatch hissue
        · rw [List.mem_singleton.mp hissue]
          exact ⟨".provider", rfl⟩
      · rw [← Except.ok.inj heach] at hissue
        exact nomatch hissue
    · rw [← Except.ok.inj heach] at hissue
      exact nomatch hissue
  obtain rfl := hat.unique hplace
  exact ⟨item, here, hget, heach, hissue⟩

/-- With nothing but mappings before what is faulty, every number is right. -/
theorem Unshifted.pointsRight (h : Unshifted items)
    (hitems : Fields.get data "dependencies" = .seq items) : PointsRight fname data items where
  parsed := by
    intro issue hmem idx hat
    obtain ⟨position, item, hget, hshape⟩ := (mem_parsed hitems).mp hmem
    obtain rfl := hat.unique (at_shape hshape).1
    exact ⟨item, hget, hshape⟩
  validated := by
    intro issue hmem idx hat
    rcases (mem_validated hitems).mp hmem with ⟨position, item, hget, hshape⟩ |
      ⟨position, dep, hget, hentry⟩
    · obtain rfl := hat.unique (at_shape hshape).1
      exact .inl ⟨item, hget, hshape⟩
    · have hfaulty : Faulty (earlierNames items position) dep := by
        by_contra hfine
        rw [checkDependency_eq_nil.mpr hfine] at hentry
        exact nomatch hentry
      have hrank : rank items position = position := by
        refine rank_eq_of_maps (Nat.le_of_lt (List.getElem?_eq_some_iff.mp hget).1) ?_
        intro before item hlt hitem
        by_contra hother
        exact h before position item dep hlt hitem (Bool.eq_false_iff.mpr hother) hget hfaulty
      rw [hrank] at hentry
      obtain rfl := hat.unique (at_entry hentry).1
      exact .inr ⟨dep, hget, hentry⟩
  strict := fun _ hrun _ hmem _ hat => strict_right hitems hrun hmem hat

/-- The first faulty entry behind something else is reported under the number of an entry that
    has no fault, or of no entry at all. -/
theorem PointsRight.unshifted (h : PointsRight fname data items)
    (hitems : Fields.get data "dependencies" = .seq items) : Unshifted items := by
  have hleast : ∀ after, ∀ before item dep, before < after → items[before]? = some item →
      isMap item = false → items[after]? = some (.map dep) →
      ¬ Faulty (earlierNames items after) dep := by
    intro after
    induction after using Nat.strongRecOn with
    | ind after ih =>
      intro before item dep hlt hitem hother hget hfaulty
      have hshift := rank_lt_of_other hlt hitem hother
      obtain ⟨issue, hissue⟩ : ∃ issue, issue ∈
          (checkDependency fname (rank items after) (earlierNames items after) dep).issues := by
        apply List.exists_mem_of_ne_nil
        intro hnil
        exact checkDependency_eq_nil.mp hnil hfaulty
      obtain ⟨hat, hreason⟩ := at_entry hissue
      have hmem := (mem_validated hitems).mpr (.inr ⟨after, dep, hget, hissue⟩)
      rcases h.validated issue hmem _ hat with ⟨item', -, hshape⟩ | ⟨dep', hget', hentry⟩
      · exact hreason (at_shape hshape).2
      · -- the entry at that number is faulty itself, so nothing was dropped up to there
        have hfaulty' : Faulty (earlierNames items (rank items after)) dep' := by
          by_contra hfine
          rw [checkDependency_eq_nil.mpr hfine] at hentry
          exact nomatch hentry
        have hkept : rank items (rank items after) = rank items after := by
          refine rank_eq_of_maps (Nat.le_of_lt (List.getElem?_eq_some_iff.mp hget').1) ?_
          intro before' item' hlt' hitem'
          by_contra hother'
          exact ih _ hshift before' item' dep' hlt' hitem' (Bool.eq_false_iff.mpr hother')
            hget' hfaulty'
        have hmore := rank_succ_of_map hget'
        have hmono := rank_mono items (show rank items after + 1 ≤ after from hshift)
        omega
  intro before after item dep
  exact hleast after before item dep

end

/-- On a list under `dependencies` every issue points at its element exactly when nothing but
    mappings stands before a faulty entry. -/
theorem pointsRight_iff (fname : String) (data : Fields) :
    (∀ items, Fields.get data "dependencies" = .seq items → PointsRight fname data items) ↔
      ∀ items, Fields.get data "dependencies" = .seq items → Unshifted items := by
  constructor
  · intro h items hitems
    exact (h items hitems).unshifted hitems
  · intro h items hitems
    exact (h items hitems).pointsRight hitems

/-- A number before an entry without a capability: the issue of the entry names the number. -/
theorem dropped_number_shifts :
    ¬ ∀ items, Fields.get [(.str "dependencies", .seq [.int 5, .map []])] "dependencies" = .seq items →
      PointsRight "dependencies.yaml" [(.str "dependencies", .seq [.int 5, .map []])] items := by
  intro h
  have hitems : Fields.get [(.str "dependencies", .seq [.int 5, .map []])] "dependencies" =
      .seq [.int 5, .map []] := rfl
  refine ((h _ hitems).unshifted hitems) 0 1 (.int 5) [] Nat.zero_lt_one rfl rfl rfl ?_
  intro name hname hne
  exact absurd (Yaml.str.inj hname).symm hne

end KeyholeIndices
