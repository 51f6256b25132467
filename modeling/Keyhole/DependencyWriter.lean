import Keyhole.CapabilityResolution
import Keyhole.CapabilityNamespace
import Keyhole.YamlDocument
import Mathlib.Data.List.TakeWhile

/-!
# Writing a dependency into `dependencies.yaml`

`_write_native_dependency` works on the text of the file: it looks for the names of the
capability and of the provider anywhere in it, and appends a list entry at the margin.  The
validation reads a mapping with a `dependencies` list.

* `YamlRules`, `Standard`: what is read from a text, and the rules of YAML this rests on;
* `AddsExactly`: what a call that reports success is to leave;
* `Fits`: the files and dependencies for which the entry lands in the list;
* `addsExactly_iff_fits`: the two agree. -/

namespace KeyholeWriter

open KeyholeJson KeyholeYaml
open KeyholeCapability (ResolvedDependency MaterializeEnv MaterializationResult Store readNewlines
  withoutNewlines appendBlock dependencyBlock writeNativeDependency)
open KeyholeNamespace (validateRaw versionShape segmentShape checkVersionSegment beforeNewline
  splitOn)

/-! ## The rules of YAML -/

/-- What the rules of YAML make of a text. -/
structure YamlRules where
  /-- `yaml.safe_load` -/
  load : Loader
  /-- the value of a plain scalar, where it has one -/
  plain : String → Option Yaml
  /-- the key of the mapping at the margin whose list goes on with an entry at the margin, at the
      end of the text -/
  openKey : String → Option Yaml

/-- A character a plain scalar is written with. -/
def isPlainChar (c : Char) : Bool :=
  (0x20 ≤ c.toNat && c.toNat ≤ 0x7E)
    || (0xA0 ≤ c.toNat && !([0x2028, 0x2029, 0xFEFF, 0xFFFE, 0xFFFF].contains c.toNat))

/-- The characters that start something else than a plain scalar. -/
def indicators : List Char :=
  ['-', '?', ':', ',', '[', ']', '\x7b', '\x7d', '#', '&', '*', '!', '|', '>', '\'', '\"', '%',
    '@', '\x60']

/-- A text that stands for itself as a plain scalar on one line. -/
def plainLine (text : String) : Bool :=
  text.toList.all isPlainChar
    && (match text.toList with
      | [] => false
      | [c] => c != ' ' && !indicators.contains c
      | c :: next :: _ =>
          c != ' ' && (!indicators.contains c || (['-', '?', ':'].contains c && next != ' ')))
    && !text.toList.getLast?.any [' ', ':'].contains
    && !contains text ": " && !contains text " #"

/-- The keys and the texts of the block. -/
def blockPairs (resolved : ResolvedDependency) : List (String × String) :=
  [("capability", resolved.capability), ("provider", resolved.provider)]
    ++ (if resolved.version = "" then [] else [("version", resolved.version)])
    ++ (if resolved.digest = "" then [] else [("digest", resolved.digest)])

/-- Every text of the block is a plain scalar. -/
def PlainBlock (resolved : ResolvedDependency) : Prop :=
  ∀ pair ∈ blockPairs resolved, plainLine pair.2 = true

instance (resolved : ResolvedDependency) : Decidable (PlainBlock resolved) :=
  inferInstanceAs (Decidable (∀ pair ∈ blockPairs resolved, plainLine pair.2 = true))

/-- One field of a block of plain scalars. -/
def blockField (rules : YamlRules) (pair : String × String) : Option (Yaml × Yaml) :=
  (rules.plain pair.2).map fun value => (.str pair.1, value)

/-- What a block of plain scalars reads as, where each of them has a value. -/
def blockFields (rules : YamlRules) (resolved : ResolvedDependency) : Option Fields :=
  (blockPairs resolved).mapM (blockField rules)

/-- The text with one line end after its last line. -/
def ended (text : String) : String := withoutNewlines text ++ "\n"

/-- `read_text` of a file. -/
def textOf (content : String) : String := String.ofList (readNewlines content.toList)

/-- The value of `dependencies`. -/
def dependenciesOf (data : Fields) : Yaml := Fields.get data "dependencies"

/-- The entries a value of `dependencies` holds, if it can hold any. -/
def entriesOf : Yaml → Option (List Yaml)
  | .seq items => some items
  | .null => some []
  | _ => none

/-- The rules of YAML at a text and a dependency. -/
structure Standard (rules : YamlRules) (text : String) (resolved : ResolvedDependency) : Prop where
  /-- a list entry at the margin starts no mapping -/
  listFirst : ∀ rest data, rules.load ("- " ++ rest) ≠ .ok (.map data)
  /-- the line ends after the last line are part of its scalar at most -/
  lineEnds : ∀ data, rules.load text = .ok (.map data) →
    ∃ data', rules.load (ended text) = .ok (.map data')
  /-- and no part of a document that says nothing -/
  lineEndsNothing : rules.load text = .ok .null → rules.load (ended text) = .ok .null
  /-- after a document that says nothing, a list entry starts no mapping -/
  afterNothing : rules.load (ended text) = .ok .null →
    ∀ rest data, rules.load (ended text ++ ("- " ++ rest)) ≠ .ok (.map data)
  /-- a mapping that ends in no open list does not go on with the entry -/
  closedMap : rules.openKey (ended text) = none → ∀ data data',
    rules.load (ended text) = .ok (.map data) →
      rules.load (ended text ++ textOf (dependencyBlock resolved)) ≠ .ok (.map data')
  /-- a plain scalar without a value is an error -/
  noValue : PlainBlock resolved → blockFields rules resolved = none →
    ∀ data, rules.load (ended text ++ dependencyBlock resolved) ≠ .ok (.map data)
  /-- an entry goes to the key whose list is open, and leaves `dependencies` alone otherwise -/
  openList : PlainBlock resolved → ∀ entry key data, blockFields rules resolved = some entry →
    rules.openKey (ended text) = some key → rules.load (ended text) = .ok (.map data) →
      ∃ data', rules.load (ended text ++ dependencyBlock resolved) = .ok (.map data') ∧
        (key ≠ .str "dependencies" → dependenciesOf data' = dependenciesOf data) ∧
        (key = .str "dependencies" → ∃ items, entriesOf (dependenciesOf data) = some items ∧
          dependenciesOf data' = .seq (items ++ [.map entry]))
  /-- numbers, dates and the words YAML reserves are written without these letters -/
  words : ∀ word c, c ∈ String.toList word → c ∈ ['g', 'h', 'j', 'k', 'm', 'p', 'q', 'v', 'w'] →
    rules.plain word = some (.str word)

/-! ## What the file says -/

/-- `load_yaml_safe` of the file's text. -/
def readText (rules : YamlRules) (text : String) : Except String Fields :=
  loadYamlSafe (some rules.load) "dependencies.yaml" (.text text)

/-- `load_yaml_safe` of `dependencies.yaml`. -/
def readStore (rules : YamlRules) (store : Store) : Except String Fields :=
  match store.dependencies with
  | none => loadYamlSafe (some rules.load) "dependencies.yaml" .missing
  | some content => readText rules (textOf content)

/-- The entries of the `dependencies` list. -/
def entriesIn (read : Except String Fields) : List Yaml :=
  match read with
  | .ok data => (entriesOf (dependenciesOf data)).getD []
  | .error _ => []

/-- The list has the entry for this capability and this provider. -/
def HasEntry (items : List Yaml) (resolved : ResolvedDependency) : Prop :=
  ∃ entry, Yaml.map entry ∈ items ∧ Fields.get entry "capability" = .str resolved.capability ∧
    Fields.get entry "provider" = .str resolved.provider

/-- An entry with a capability and a provider. -/
def IsEntry (item : Yaml) : Prop :=
  ∃ entry capability provider, item = .map entry ∧
    Fields.get entry "capability" = .str capability ∧ Fields.get entry "provider" = .str provider

/-- The form `dependencies.yaml` is documented in: no file, nothing in it, or a mapping with a
    list of entries. -/
def Documented (rules : YamlRules) (store : Store) : Prop :=
  store.dependencies = none ∨ readStore rules store = .ok [] ∨
    ∃ data items, readStore rules store = .ok data ∧ dependenciesOf data = .seq items ∧
      ∀ item ∈ items, IsEntry item

/-- What a call that reports success leaves: a mapping whose list has the new entry and every
    earlier one, and where nothing is written the entry was there before. -/
def AddsExactly (rules : YamlRules) (env : MaterializeEnv) (resolved : ResolvedDependency)
    (store : Store) : Prop :=
  ∀ result after, writeNativeDependency env resolved store = (.ok result, after) →
    result.success = true →
      (∃ data items, readStore rules after = .ok data ∧ dependenciesOf data = .seq items ∧
        HasEntry items resolved ∧ ∀ item ∈ entriesIn (readStore rules store), item ∈ items) ∧
      (result.isWrite = false → HasEntry (entriesIn (readStore rules store)) resolved)

/-! ## Where the entry lands -/

/-- The text the writer looks at. -/
def existingText (store : Store) : String := textOf (store.dependencies.getD "")

/-- Both names occur somewhere in the text. -/
def NamesOccur (resolved : ResolvedDependency) (text : String) : Prop :=
  (contains text resolved.capability && contains text resolved.provider) = true

instance (resolved : ResolvedDependency) (text : String) : Decidable (NamesOccur resolved text) :=
  inferInstanceAs (Decidable (_ = true))

/-- The calls and files for which the entry is where it should be. -/
inductive Fits (rules : YamlRules) (env : MaterializeEnv) (resolved : ResolvedDependency)
    (store : Store) : Prop
  /-- the file cannot be read -/
  | unread (raised) (hfile : store.dependencies.isSome) (hfault : env.readFault = some raised)
  /-- the names occur, and so does the entry -/
  | present (hoccur : NamesOccur resolved (existingText store))
      (hentry : HasEntry (entriesIn (readStore rules store)) resolved)
  /-- the file cannot be written -/
  | unwritten (raised) (hoccur : ¬ NamesOccur resolved (existingText store))
      (hfault : env.writeFault = some raised)
  /-- the block is an entry of plain scalars, the file ends in the open list at the margin, and
      the provider's text stands for itself or the entry is there under another spelling -/
  | appended (key entry data) (hoccur : ¬ NamesOccur resolved (existingText store))
      (hblock : PlainBlock resolved) (hvalue : blockFields rules resolved = some entry)
      (hfull : strip (existingText store) ≠ "")
      (hdata : rules.load (ended (existingText store)) = .ok (.map data))
      (hopen : rules.openKey (ended (existingText store)) = some key)
      (hkept : ∀ item ∈ entriesIn (readStore rules store),
        item ∈ entriesIn (.ok data) ∨ (key = .str "dependencies" ∧ item = .map entry))
      (hentry : (key = .str "dependencies" ∧
          rules.plain resolved.provider = some (.str resolved.provider)) ∨
        HasEntry (entriesIn (.ok data)) resolved)

/-! ## Line ends -/

theorem return_not_mem_readNewlines (text : List Char) : '\r' ∉ readNewlines text := by
  fun_induction readNewlines text with
  | case1 rest ih => exact fun h => (List.mem_cons.mp h).elim nofun ih
  | case2 rest hother ih => exact fun h => (List.mem_cons.mp h).elim nofun ih
  | case3 c rest hother hother' ih =>
    intro h
    rcases List.mem_cons.mp h with hc | h
    · exact hother' hc.symm
    · exact ih h
  | case4 => exact List.not_mem_nil

variable {text : String} {data entry : Fields} {c : Char} {resolved : ResolvedDependency}
variable {items : List Yaml} {rules : YamlRules}

theorem readNewlines_cons (hc : c ≠ '\r') (rest : List Char) :
    readNewlines (c :: rest) = c :: readNewlines rest := by
  rw [readNewlines]
  · exact fun _ h => absurd h hc
  · exact hc

theorem readNewlines_append {front : List Char} (h : '\r' ∉ front) (rest : List Char) :
    readNewlines (front ++ rest) = front ++ readNewlines rest := by
  induction front with
  | nil => rfl
  | cons c front ih =>
    have hc : c ≠ '\r' := fun hc => h (hc ▸ List.mem_cons_self)
    rw [List.cons_append, readNewlines_cons hc, ih fun hmem => h (List.mem_cons_of_mem c hmem),
      List.cons_append]

theorem textOf_append {front : String} (h : '\r' ∉ front.toList) (rest : String) :
    textOf (front ++ rest) = front ++ textOf rest := by
  rw [textOf, String.toList_append, readNewlines_append h, String.ofList_append,
    String.ofList_toList, textOf]

theorem textOf_of_not_mem (h : '\r' ∉ text.toList) : textOf text = text := by
  have hread := textOf_append h ""
  rw [String.append_empty] at hread
  rw [hread]
  exact String.append_empty

theorem return_not_mem_textOf (content : String) : '\r' ∉ (textOf content).toList := by
  rw [textOf, String.toList_ofList]
  exact return_not_mem_readNewlines _

/-! ## Blank texts -/

theorem mem_dropWhile {p : Char → Bool} {text : List Char} (h : c ∈ text)
    (hc : p c = false) : c ∈ text.dropWhile p := by
  rw [← List.takeWhile_append_dropWhile (p := p) (l := text)] at h
  rcases List.mem_append.mp h with h | h
  · exact absurd (List.mem_takeWhile_imp h) (Bool.eq_false_iff.mp hc)
  · exact h

/-- A text is blank where every character of it is. -/
theorem strip_eq_empty_iff :
    strip text = "" ↔ ∀ c ∈ text.toList, isSpace c = true := by
  rw [strip, ← String.toList_inj, String.toList_ofList]
  constructor
  · intro h c hc
    by_contra hspace
    have hleft := mem_dropWhile hc (Bool.eq_false_iff.mpr hspace)
    have hright := mem_dropWhile (List.mem_reverse.mpr hleft) (Bool.eq_false_iff.mpr hspace)
    have hmem := List.mem_reverse.mpr hright
    rw [h] at hmem
    exact nomatch hmem
  · intro h
    rw [List.dropWhile_eq_nil_iff.mpr h]
    rfl

theorem mem_ended (h : c ∈ text.toList) : c ∈ (ended text).toList := by
  rw [ended, withoutNewlines, String.toList_append, String.toList_ofList]
  by_cases hc : c = '\n'
  · exact List.mem_append_right _ (hc ▸ List.mem_singleton_self _)
  · exact List.mem_append_left _ (List.mem_reverse.mpr
      (mem_dropWhile (List.mem_reverse.mpr h) (decide_eq_false hc)))

theorem mem_of_mem_ended (h : c ∈ (ended text).toList) :
    c ∈ text.toList ∨ c = '\n' := by
  rw [ended, withoutNewlines, String.toList_append, String.toList_ofList] at h
  rcases List.mem_append.mp h with h | h
  · exact .inl (List.mem_reverse.mp ((List.dropWhile_suffix _).subset (List.mem_reverse.mp h)))
  · exact .inr (List.mem_singleton.mp h)

theorem strip_ended_append (h : strip text ≠ "") (rest : String) :
    strip (ended text ++ rest) ≠ "" := by
  intro hblank
  apply h
  rw [strip_eq_empty_iff] at hblank ⊢
  intro c hc
  apply hblank c
  rw [String.toList_append]
  exact List.mem_append_left _ (mem_ended hc)

/-! ## The block -/

/-- Every character of a split text's part is one of the text. -/
theorem mem_of_mem_splitOn {sep : Char} {text part : List Char} (hpart : part ∈ splitOn sep text)
    (hc : c ∈ part) : c ∈ text := by
  induction text generalizing part with
  | nil =>
    rw [List.mem_singleton.mp hpart] at hc
    exact nomatch hc
  | cons first rest ih =>
    rw [splitOn] at hpart
    split at hpart
    · rcases List.mem_cons.mp hpart with rfl | hpart
      · exact nomatch hc
      · exact List.mem_cons_of_mem first (ih hpart hc)
    · split at hpart
      · rw [List.mem_singleton.mp hpart] at hc
        exact List.mem_singleton.mp hc ▸ List.mem_cons_self
      · rename_i next others hsplit
        rcases List.mem_cons.mp hpart with rfl | hpart
        · rcases List.mem_cons.mp hc with rfl | hc
          · exact List.mem_cons_self
          · exact List.mem_cons_of_mem first (ih (hsplit ▸ List.mem_cons_self) hc)
        · exact List.mem_cons_of_mem first (ih (hsplit ▸ List.mem_cons_of_mem next hpart) hc)

/-- A capability's name has the `v` of its version. -/
theorem v_mem_of_valid {name : List Char} (h : validateRaw name = true) : 'v' ∈ name := by
  rw [validateRaw] at h
  split at h
  · exact nomatch h
  · split at h
    · rename_i domain category capability version hsplit
      have hversion : versionShape (beforeNewline version) = true := (Bool.and_eq_true_iff.mp h).2
      have hv : 'v' ∈ beforeNewline version := by
        revert hversion
        cases beforeNewline version with
        | nil => exact nofun
        | cons first rest =>
          intro hshape
          by_cases hfirst : first = 'v'
          · exact hfirst ▸ List.mem_cons_self
          · rw [versionShape] at hshape
            · exact nomatch hshape
            · exact fun heq => absurd (List.cons.inj heq).1 hfirst
            · exact fun d rest' heq => absurd (List.cons.inj heq).1 hfirst
            · exact fun d rest' heq => absurd (List.cons.inj heq).1 hfirst
      have hpart : 'v' ∈ version := by
        rw [beforeNewline] at hv
        split at hv
        · exact List.dropLast_subset version hv
        · exact hv
      have hlast : version ∈ splitOn '.' name := by
        rw [hsplit]
        exact List.mem_of_getLast? rfl
      exact mem_of_mem_splitOn hlast hpart
    · exact nomatch h

/-- As it is read back, the block starts with a list entry at the margin. -/
theorem textOf_block (resolved : ResolvedDependency) :
    ∃ rest, textOf (dependencyBlock resolved) = "- " ++ rest := by
  have hword : "- capability: " = "- " ++ "capability: " := by decide
  rw [dependencyBlock, List.append_assoc, List.cons_append, List.cons_append, join, hword]
  simp only [String.append_assoc]
  exact ⟨_, textOf_append (by decide) _⟩

theorem mem_join {parts : List String} (h : c ∈ (join "\n" parts).toList) :
    c = '\n' ∨ ∃ part ∈ parts, c ∈ part.toList := by
  induction parts with
  | nil => exact nomatch h
  | cons part rest ih =>
    cases rest with
    | nil => exact .inr ⟨part, List.mem_singleton_self part, h⟩
    | cons next rest =>
      rw [join, String.toList_append, String.toList_append] at h
      rcases List.mem_append.mp h with h | h
      · rcases List.mem_append.mp h with h | h
        · exact .inr ⟨part, List.mem_cons_self, h⟩
        · exact .inl (List.mem_singleton.mp h)
      · rcases ih h with hc | ⟨part', hpart, hc⟩
        · exact .inl hc
        · exact .inr ⟨part', List.mem_cons_of_mem part hpart, hc⟩

theorem return_not_mem_plain (h : plainLine text = true) : '\r' ∉ text.toList := by
  intro hmem
  simp only [plainLine, Bool.and_eq_true] at h
  have hplain := List.all_eq_true.mp h.1.1.1.1 _ hmem
  exact absurd hplain (by decide)

theorem return_not_mem_line {lead : String} (hlead : '\r' ∉ lead.toList)
    (h : plainLine text = true) : '\r' ∉ (lead ++ text).toList := by
  rw [String.toList_append]
  exact fun hmem => (List.mem_append.mp hmem).elim hlead (return_not_mem_plain h)

/-- The block of plain scalars has no line end but newlines. -/
theorem return_not_mem_block (h : PlainBlock resolved) :
    '\r' ∉ (dependencyBlock resolved).toList := by
  have hlines : ∀ line ∈ ["- capability: " ++ resolved.capability,
      "  provider: " ++ resolved.provider]
        ++ (if resolved.version = "" then [] else ["  version: " ++ resolved.version])
        ++ (if resolved.digest = "" then [] else ["  digest: " ++ resolved.digest]),
      '\r' ∉ line.toList := by
    intro line hline
    rcases List.mem_append.mp hline with hline | hline
    · rcases List.mem_append.mp hline with hline | hline
      · have hcapability : plainLine resolved.capability = true := h ("capability", _) List.mem_cons_self
        have hprovider : plainLine resolved.provider = true :=
          h ("provider", _) (List.mem_cons_of_mem _ List.mem_cons_self)
        rcases List.mem_cons.mp hline with rfl | hline
        · exact return_not_mem_line (by decide) hcapability
        · rw [List.mem_singleton.mp hline]
          exact return_not_mem_line (by decide) hprovider
      · split at hline
        · exact nomatch hline
        · rename_i hversion
          rw [List.mem_singleton.mp hline]
          refine return_not_mem_line (by decide) (h ("version", _) ?_)
          refine List.mem_append_left _ (List.mem_append_right _ ?_)
          rw [if_neg hversion]
          exact List.mem_singleton_self _
    · split at hline
      · exact nomatch hline
      · rename_i hdigest
        rw [List.mem_singleton.mp hline]
        refine return_not_mem_line (by decide) (h ("digest", _) (List.mem_append_right _ ?_))
        rw [if_neg hdigest]
        exact List.mem_singleton_self _
  intro hmem
  rw [dependencyBlock, String.toList_append] at hmem
  rcases List.mem_append.mp hmem with hmem | hmem
  · rcases mem_join hmem with hc | ⟨line, hline, hc⟩
    · exact nomatch hc
    · exact hlines line hline hc
  · exact absurd hmem (by decide)

/-- The fields of a block of plain scalars that has values. -/
theorem blockFields_names (h : blockFields rules resolved = some entry) :
    rules.plain resolved.capability = some (Fields.get entry "capability") ∧
      rules.plain resolved.provider = some (Fields.get entry "provider") := by
  rw [blockFields, blockPairs, List.append_assoc, List.cons_append, List.cons_append,
    List.nil_append, List.mapM_cons, List.mapM_cons] at h
  cases hcapability : rules.plain resolved.capability with
  | none => simp [blockField, hcapability] at h
  | some capability =>
    cases hprovider : rules.plain resolved.provider with
    | none => simp [blockField, hcapability, hprovider] at h
    | some provider =>
      simp only [blockField, hcapability, hprovider, Option.map_some, Option.bind_eq_bind,
        Option.bind_some, Option.bind_eq_some_iff, Option.pure_def, Option.some.injEq] at h
      obtain ⟨_, ⟨_, _, rfl⟩, rfl⟩ := h
      exact ⟨rfl, rfl⟩

/-! ## What is read after the call -/

theorem readText_of_full (h : strip text ≠ "") :
    readText rules text = asMapping "dependencies.yaml" (rules.load text) := by
  rw [readText, loadYamlSafe, if_neg h]

theorem readText_of_map (hfull : strip text ≠ "") (h : rules.load text = .ok (.map data)) :
    readText rules text = .ok data := by
  rw [readText_of_full hfull, h]
  rfl

/-- A text read as a mapping with anything in it is loaded as that mapping. -/
theorem load_of_readText (h : readText rules text = .ok data) (hdata : data ≠ []) :
    rules.load text = .ok (.map data) := by
  rw [readText, loadYamlSafe] at h
  split at h
  · exact absurd (Except.ok.inj h).symm hdata
  · cases hload : rules.load text with
    | error why =>
      rw [hload] at h
      exact nomatch h
    | ok value =>
      rw [hload] at h
      cases value with
      | map entries => rw [Except.ok.inj h]
      | null => exact absurd (Except.ok.inj h).symm hdata
      | _ =>
        exact nomatch h

theorem ne_nil_of_seq (h : dependenciesOf data = .seq items) :
    data ≠ [] := by
  rintro rfl
  exact nomatch h

theorem entriesIn_of_seq (h : dependenciesOf data = .seq items) : entriesIn (.ok data) = items := by
  rw [entriesIn, h]
  rfl

/-- Where there is an entry, the file is read as a mapping with a list. -/
theorem seq_of_hasEntry {read : Except String Fields} (h : HasEntry (entriesIn read) resolved) :
    ∃ data items, read = .ok data ∧ dependenciesOf data = .seq items := by
  obtain ⟨entry, hmem, -, -⟩ := h
  cases read with
  | error why => exact nomatch hmem
  | ok data =>
    rw [entriesIn] at hmem
    cases hvalue : dependenciesOf data with
    | seq items => exact ⟨data, items, rfl, hvalue⟩
    | _ =>
      rw [hvalue] at hmem
      exact nomatch hmem

/-- The text the call writes. -/
def writtenText (resolved : ResolvedDependency) (store : Store) : String :=
  appendBlock (existingText store) (dependencyBlock resolved)

theorem writtenText_full {store : Store} (h : strip (existingText store) ≠ "") :
    writtenText resolved store = ended (existingText store) ++ dependencyBlock resolved := by
  rw [writtenText, appendBlock, if_neg h]
  rfl

theorem textOf_writtenText {store : Store}
    (h : strip (existingText store) ≠ "") : textOf (writtenText resolved store)
      = ended (existingText store) ++ textOf (dependencyBlock resolved) := by
  rw [writtenText_full h]
  refine textOf_append (fun hmem => ?_) _
  rcases mem_of_mem_ended hmem with hmem | hc
  · exact return_not_mem_textOf _ hmem
  · exact nomatch hc

/-- What the call has to leave in the file it writes. -/
def Lands (rules : YamlRules) (resolved : ResolvedDependency) (store : Store) : Prop :=
  ∃ data items, readText rules (textOf (writtenText resolved store)) = .ok data ∧
    dependenciesOf data = .seq items ∧ HasEntry items resolved ∧
    ∀ item ∈ entriesIn (readStore rules store), item ∈ items

section Call

variable {rules : YamlRules} {env : MaterializeEnv} {resolved : ResolvedDependency} {store : Store}

theorem adds_of_unread {raised} (hfile : store.dependencies.isSome)
    (hfault : env.readFault = some raised) : AddsExactly rules env resolved store := by
  intro result after hcall
  obtain ⟨content, hcontent⟩ := Option.isSome_iff_exists.mp hfile
  rw [writeNativeDependency, hcontent, hfault] at hcall
  exact nomatch (Prod.mk.inj hcall).1

/-- A call that gets to read the file. -/
theorem writeNativeDependency_read (h : ¬ (store.dependencies.isSome ∧ env.readFault.isSome)) :
    writeNativeDependency env resolved store =
      if NamesOccur resolved (existingText store) then
        (.ok {
          success := true
          target := env.repoPath ++ "/dependencies.yaml"
          diffSummary := "Dependency already present in dependencies.yaml (no change)." }, store)
      else
        match env.writeFault with
        | some (raised, left) => (.error raised, { store with dependencies := left })
        | none =>
          (.ok {
            success := true
            target := env.repoPath ++ "/dependencies.yaml"
            diffSummary := "Added dependency: " ++ resolved.capability ++ " → "
              ++ resolved.provider
              ++ (if resolved.version = "" then "" else "@" ++ resolved.version)
            isWrite := true },
          { store with dependencies := some (writtenText resolved store) }) := by
  rw [writeNativeDependency]
  cases hfile : store.dependencies with
  | none =>
    simp only [NamesOccur, existingText, writtenText, hfile]
    rfl
  | some content =>
    cases hfault : env.readFault with
    | none =>
      simp only [NamesOccur, existingText, writtenText, hfile]
      rfl
    | some raised => exact absurd ⟨by rw [hfile]; rfl, by rw [hfault]; rfl⟩ h

theorem adds_present_iff (hread : ¬ (store.dependencies.isSome ∧ env.readFault.isSome))
    (hoccur : NamesOccur resolved (existingText store)) :
    AddsExactly rules env resolved store ↔
      HasEntry (entriesIn (readStore rules store)) resolved := by
  rw [AddsExactly, writeNativeDependency_read hread, if_pos hoccur]
  constructor
  · intro h
    exact (h _ _ rfl rfl).2 rfl
  · intro hentry result after hcall _
    obtain ⟨hresult, rfl⟩ := Prod.mk.inj hcall
    obtain ⟨data, items, hstore, hitems⟩ := seq_of_hasEntry hentry
    refine ⟨⟨data, items, hstore, hitems, ?_, ?_⟩, fun _ => hentry⟩
    · rw [hstore, entriesIn_of_seq hitems] at hentry
      exact hentry
    · rw [hstore, entriesIn_of_seq hitems]
      exact fun item hitem => hitem

theorem adds_of_unwritten {raised} (hread : ¬ (store.dependencies.isSome ∧ env.readFault.isSome))
    (hoccur : ¬ NamesOccur resolved (existingText store)) (hfault : env.writeFault = some raised) :
    AddsExactly rules env resolved store := by
  intro result after hcall
  rw [writeNativeDependency_read hread, if_neg hoccur, hfault] at hcall
  exact nomatch (Prod.mk.inj hcall).1

theorem adds_written_iff (hread : ¬ (store.dependencies.isSome ∧ env.readFault.isSome))
    (hoccur : ¬ NamesOccur resolved (existingText store)) (hfault : env.writeFault = none) :
    AddsExactly rules env resolved store ↔ Lands rules resolved store := by
  rw [AddsExactly, writeNativeDependency_read hread, if_neg hoccur, hfault]
  constructor
  · intro h
    exact (h _ _ rfl rfl).1
  · intro h result after hcall _
    obtain ⟨hresult, rfl⟩ := Prod.mk.inj hcall
    refine ⟨h, fun hwrite => ?_⟩
    rw [← Except.ok.inj hresult] at hwrite
    exact nomatch hwrite

theorem HasEntry.mono {more : List Yaml} (h : HasEntry items resolved)
    (hsub : ∀ item ∈ items, item ∈ more) : HasEntry more resolved := by
  obtain ⟨entry, hmem, hcapability, hprovider⟩ := h
  exact ⟨entry, hsub _ hmem, hcapability, hprovider⟩

/-- The block's own entry is the one for the capability, and for a provider whose text stands
    for itself. -/
theorem hasEntry_block (hname : validateRaw resolved.capability.toList = true)
    (hrules : Standard rules (existingText store) resolved)
    (hvalue : blockFields rules resolved = some entry)
    (hplain : rules.plain resolved.provider = some (.str resolved.provider))
    (hmem : Yaml.map entry ∈ items) : HasEntry items resolved := by
  obtain ⟨hcapability, hprovider⟩ := blockFields_names hvalue
  have hword := hrules.words resolved.capability 'v' (v_mem_of_valid hname) (by decide)
  exact ⟨entry, hmem, Option.some.inj (hcapability.symm.trans hword),
    Option.some.inj (hprovider.symm.trans hplain)⟩

theorem entriesIn_of_entriesOf
    (h : entriesOf (dependenciesOf data) = some items) : entriesIn (.ok data) = items := by
  rw [entriesIn, h]
  rfl

/-- What the written file is read as, where the list of some key is open. -/
theorem readText_written {key : Yaml}
    (hrules : Standard rules (existingText store) resolved) (hblock : PlainBlock resolved)
    (hvalue : blockFields rules resolved = some entry) (hfull : strip (existingText store) ≠ "")
    (hdata : rules.load (ended (existingText store)) = .ok (.map data))
    (hopen : rules.openKey (ended (existingText store)) = some key) :
    ∃ data', readText rules (textOf (writtenText resolved store)) = .ok data' ∧
      (key ≠ .str "dependencies" → dependenciesOf data' = dependenciesOf data) ∧
      (key = .str "dependencies" →
        dependenciesOf data' = .seq (entriesIn (.ok data) ++ [.map entry])) := by
  obtain ⟨data', hload, hother, hself⟩ := hrules.openList hblock entry key data hvalue hopen hdata
  refine ⟨data', ?_, hother, fun hkey => ?_⟩
  · rw [textOf_writtenText hfull, textOf_of_not_mem (return_not_mem_block hblock)]
    exact readText_of_map (strip_ended_append hfull _) hload
  · obtain ⟨items, hitems, hseq⟩ := hself hkey
    rw [hseq, entriesIn_of_entriesOf hitems]

theorem lands_of_appended {key : Yaml} (hname : validateRaw resolved.capability.toList = true)
    (hrules : Standard rules (existingText store) resolved) (hblock : PlainBlock resolved)
    (hvalue : blockFields rules resolved = some entry) (hfull : strip (existingText store) ≠ "")
    (hdata : rules.load (ended (existingText store)) = .ok (.map data))
    (hopen : rules.openKey (ended (existingText store)) = some key)
    (hkept : ∀ item ∈ entriesIn (readStore rules store),
      item ∈ entriesIn (.ok data) ∨ (key = .str "dependencies" ∧ item = .map entry))
    (hentry : (key = .str "dependencies" ∧
        rules.plain resolved.provider = some (.str resolved.provider)) ∨
      HasEntry (entriesIn (.ok data)) resolved) : Lands rules resolved store := by
  obtain ⟨data', hread, hother, hself⟩ :=
    readText_written hrules hblock hvalue hfull hdata hopen
  by_cases hkey : key = .str "dependencies"
  · refine ⟨data', _, hread, hself hkey, ?_, ?_⟩
    · rcases hentry with ⟨-, hplain⟩ | hentry
      · exact hasEntry_block hname hrules hvalue hplain
          (List.mem_append_right _ (List.mem_singleton_self _))
      · exact hentry.mono fun item hitem => List.mem_append_left _ hitem
    · intro item hitem
      rcases hkept item hitem with hitem | ⟨-, rfl⟩
      · exact List.mem_append_left _ hitem
      · exact List.mem_append_right _ (List.mem_singleton_self _)
  · have hthere : HasEntry (entriesIn (.ok data)) resolved := by
      rcases hentry with ⟨hkey', -⟩ | hentry
      · exact absurd hkey' hkey
      · exact hentry
    obtain ⟨_, items, hok, hitems⟩ := seq_of_hasEntry hthere
    obtain rfl := Except.ok.inj hok
    rw [entriesIn_of_seq hitems] at hthere hkept
    refine ⟨data', items, hread, (hother hkey).trans hitems, hthere, ?_⟩
    intro item hitem
    rcases hkept item hitem with hitem | ⟨hkey', -⟩
    · exact hitem
    · exact absurd hkey' hkey

/-- A documented file with anything in it is loaded as nothing or as a mapping. -/
theorem load_of_documented (hdoc : Documented rules store)
    (hfull : strip (existingText store) ≠ "") :
    rules.load (existingText store) = .ok .null ∨
      ∃ data, rules.load (existingText store) = .ok (.map data) := by
  cases hfile : store.dependencies with
  | none =>
    rw [existingText, hfile] at hfull
    exact absurd (by decide) hfull
  | some content =>
    have hstore : readStore rules store = readText rules (existingText store) := by
      rw [readStore, existingText, hfile]
      rfl
    have hok : ∃ data, readText rules (existingText store) = .ok data := by
      rcases hdoc with hnone | hempty | ⟨data, items, hdata, -⟩
      · rw [hfile] at hnone
        exact nomatch hnone
      · exact ⟨[], hstore ▸ hempty⟩
      · exact ⟨data, hstore ▸ hdata⟩
    obtain ⟨data, hdata⟩ := hok
    rw [readText_of_full hfull] at hdata
    cases hload : rules.load (existingText store) with
    | error why =>
      rw [hload] at hdata
      exact nomatch hdata
    | ok value =>
      rw [hload] at hdata
      cases value with
      | map entries => exact .inr ⟨entries, rfl⟩
      | null => exact .inl rfl
      | _ =>
        exact nomatch hdata

/-- The block lands in the file only at the margin of an open list. -/
theorem open_of_lands (hrules : Standard rules (existingText store) resolved)
    (hdoc : Documented rules store) (h : Lands rules resolved store) :
    strip (existingText store) ≠ "" ∧
      ∃ key data, rules.openKey (ended (existingText store)) = some key ∧
        rules.load (ended (existingText store)) = .ok (.map data) := by
  obtain ⟨found, items, hread, hitems, -, -⟩ := h
  have hload := load_of_readText hread (ne_nil_of_seq hitems)
  obtain ⟨rest, hrest⟩ := textOf_block resolved
  by_cases hfull : strip (existingText store) = ""
  · rw [writtenText, appendBlock, if_pos hfull, hrest] at hload
    exact absurd hload (hrules.listFirst rest found)
  · refine ⟨hfull, ?_⟩
    rw [textOf_writtenText hfull] at hload
    rcases load_of_documented hdoc hfull with hnothing | ⟨before, hmap⟩
    · rw [hrest] at hload
      exact absurd hload (hrules.afterNothing (hrules.lineEndsNothing hnothing) rest found)
    · obtain ⟨data, hdata⟩ := hrules.lineEnds before hmap
      cases hopen : rules.openKey (ended (existingText store)) with
      | none => exact absurd hload (hrules.closedMap hopen data found hdata)
      | some key => exact ⟨key, data, rfl, hdata⟩

/-- Where the call succeeds and a block of plain scalars lands, the file and the dependency fit. -/
theorem fits_of_lands (hrules : Standard rules (existingText store) resolved) (hdoc : Documented rules store)
    (hblock : PlainBlock resolved) (hoccur : ¬ NamesOccur resolved (existingText store))
    (h : Lands rules resolved store) : Fits rules env resolved store := by
  obtain ⟨hfull, key, data, hopen, hdata⟩ := open_of_lands hrules hdoc h
  obtain ⟨found, items, hread, hitems, hentry, hkept⟩ := h
  cases hvalue : blockFields rules resolved with
  | none =>
    have hload := load_of_readText hread (ne_nil_of_seq hitems)
    rw [textOf_writtenText hfull, textOf_of_not_mem (return_not_mem_block hblock)] at hload
    exact absurd hload (hrules.noValue hblock hvalue found)
  | some entry =>
    obtain ⟨data', hread', hother, hself⟩ :=
      readText_written hrules hblock hvalue hfull hdata hopen
    obtain rfl := Except.ok.inj (hread.symm.trans hread')
    by_cases hkey : key = .str "dependencies"
    · obtain rfl := Yaml.seq.inj (hitems.symm.trans (hself hkey))
      refine .appended key entry data hoccur hblock hvalue hfull hdata hopen ?_ ?_
      · intro item hitem
        rcases List.mem_append.mp (hkept item hitem) with hitem | hitem
        · exact .inl hitem
        · exact .inr ⟨hkey, List.mem_singleton.mp hitem⟩
      · obtain ⟨found', hmem, hcapability, hprovider⟩ := hentry
        rcases List.mem_append.mp hmem with hmem | hmem
        · exact .inr ⟨found', hmem, hcapability, hprovider⟩
        · obtain rfl := Yaml.map.inj (List.mem_singleton.mp hmem)
          refine .inl ⟨hkey, ?_⟩
          rw [(blockFields_names hvalue).2, hprovider]
    · rw [hother hkey] at hitems
      rw [← entriesIn_of_seq hitems] at hentry hkept
      exact .appended key entry data hoccur hblock hvalue hfull hdata hopen
        (fun item hitem => .inl (hkept item hitem)) (.inr hentry)

end Call

/-- A call adds exactly its dependency to a documented file where the two fit, and where the
    block is made of plain scalars, only there. -/
theorem addsExactly_iff_fits (rules : YamlRules) (env : MaterializeEnv)
    (resolved : ResolvedDependency) (store : Store)
    (hname : validateRaw resolved.capability.toList = true)
    (hrules : Standard rules (existingText store) resolved) (hdoc : Documented rules store) :
    (Fits rules env resolved store → AddsExactly rules env resolved store) ∧
      (PlainBlock resolved →
        (AddsExactly rules env resolved store ↔ Fits rules env resolved store)) := by
  have hadds : Fits rules env resolved store → AddsExactly rules env resolved store := by
    intro h
    by_cases hread : store.dependencies.isSome ∧ env.readFault.isSome
    · obtain ⟨raised, hfault⟩ := Option.isSome_iff_exists.mp hread.2
      exact adds_of_unread hread.1 hfault
    · cases h with
      | unread raised hfile hfault => exact adds_of_unread hfile hfault
      | present hoccur hentry => exact (adds_present_iff hread hoccur).mpr hentry
      | unwritten raised hoccur hfault => exact adds_of_unwritten hread hoccur hfault
      | appended key entry data hoccur hblock hvalue hfull hdata hopen hkept hentry =>
        cases hfault : env.writeFault with
        | some raised => exact adds_of_unwritten hread hoccur hfault
        | none =>
          rw [adds_written_iff hread hoccur hfault]
          exact lands_of_appended hname hrules hblock hvalue hfull hdata hopen hkept hentry
  refine ⟨hadds, fun hblock => ⟨fun h => ?_, hadds⟩⟩
  by_cases hread : store.dependencies.isSome ∧ env.readFault.isSome
  · obtain ⟨raised, hfault⟩ := Option.isSome_iff_exists.mp hread.2
    exact .unread raised hread.1 hfault
  · by_cases hoccur : NamesOccur resolved (existingText store)
    · exact .present hoccur ((adds_present_iff hread hoccur).mp h)
    · cases hfault : env.writeFault with
      | some raised => exact .unwritten raised hoccur hfault
      | none =>
        have hlands := (adds_written_iff hread hoccur hfault).mp h
        exact fits_of_lands hrules hdoc hblock hoccur hlands

/-! ## A file at hand -/

/-- A file whose list is at the margin, at its end. -/
def openFile : String :=
  "dependencies:\n- capability: billing.stripe.payments.v1\n  provider: stripe\n"

/-- A dependency that was resolved. -/
def refunds : ResolvedDependency where
  capability := "billing.stripe.refunds.v1"
  provider := "stripe-adapter"

/-- The entry of the file, and the entry for the dependency. -/
def fileEntries : List Yaml :=
  [.map [(.str "capability", .str "billing.stripe.payments.v1"), (.str "provider", .str "stripe")],
    .map [(.str "capability", .str refunds.capability), (.str "provider", .str refunds.provider)]]

/-- What the rules of YAML make of the file, with the block and without it, and of the block. -/
def fileRules : YamlRules where
  load text :=
    if text = openFile then .ok (.map [(.str "dependencies", .seq (fileEntries.take 1))])
    else if text = openFile ++ dependencyBlock refunds then
      .ok (.map [(.str "dependencies", .seq fileEntries)])
    else if text = dependencyBlock refunds then .ok (.seq (fileEntries.drop 1))
    else .error "not read here"
  plain word := some (.str word)
  openKey text := if text = openFile then some (.str "dependencies") else none

/-- The characters of the file begin with a `d`, and no carriage return is among them. -/
theorem openFile_chars : openFile.toList.head? = some 'd' ∧ '\r' ∉ openFile.toList := by
  have hchars : openFile.toList = _ := String.toList_ofList
  rw [hchars]
  exact ⟨rfl, by decide⟩

theorem fileRules_load
    (h : fileRules.load text = .ok (.map data)) : text.toList.head? = some 'd' := by
  rw [fileRules] at h
  by_cases hfile : text = openFile
  · rw [hfile]
    exact openFile_chars.1
  · by_cases hwritten : text = openFile ++ dependencyBlock refunds
    · rw [hwritten, String.toList_append, List.head?_append, openFile_chars.1]
      rfl
    · by_cases hblock : text = dependencyBlock refunds
      · simp only [if_neg hfile, if_neg hwritten, if_pos hblock] at h
        exact nomatch h
      · simp only [if_neg hfile, if_neg hwritten, if_neg hblock] at h
        exact nomatch h

theorem fileRules_listFirst (rest : String) (data : Fields) :
    fileRules.load ("- " ++ rest) ≠ .ok (.map data) := by
  intro h
  have hhead := fileRules_load h
  have hfront : "- ".toList = ['-', ' '] := by decide
  rw [String.toList_append, hfront] at hhead
  exact absurd (Option.some.inj hhead) (by decide)

theorem textOf_openFile : textOf openFile = openFile := textOf_of_not_mem openFile_chars.2

theorem openFile_full : strip openFile ≠ "" := fun h =>
  absurd (strip_eq_empty_iff.mp h 'd' (List.mem_of_mem_head? openFile_chars.1)) (by decide)

theorem ended_openFile : ended openFile = openFile := by
  refine String.toList_inj.mp ?_
  have hchars : openFile.toList = _ := String.toList_ofList
  rw [ended, withoutNewlines, String.toList_append, String.toList_ofList, hchars]
  rfl

theorem load_openFile :
    fileRules.load openFile = .ok (.map [(.str "dependencies", .seq (fileEntries.take 1))]) := rfl

theorem standard_openFile : Standard fileRules openFile refunds where
  listFirst := fileRules_listFirst
  lineEnds data h := by
    rw [ended_openFile]
    exact ⟨data, h⟩
  lineEndsNothing h := by
    rw [load_openFile] at h
    exact nomatch h
  afterNothing h := by
    rw [ended_openFile, load_openFile] at h
    exact nomatch h
  closedMap h := by
    rw [ended_openFile] at h
    exact nomatch h
  noValue _ h := nomatch h
  openList _ entry key data hvalue hopen hdata := by
    rw [ended_openFile] at hopen hdata ⊢
    have hentry : entry = [(.str "capability", .str refunds.capability),
        (.str "provider", .str refunds.provider)] := (Option.some.inj hvalue).symm
    have hkey : key = .str "dependencies" := (Option.some.inj hopen).symm
    have hfound : data = [(.str "dependencies", .seq (fileEntries.take 1))] :=
      (Yaml.map.inj (Except.ok.inj hdata)).symm
    refine ⟨_, rfl, fun h => absurd hkey h, fun _ => ?_⟩
    rw [hfound, hentry]
    exact ⟨_, rfl, rfl⟩
  words _ _ _ _ := rfl

theorem refunds_absent : ¬ NamesOccur refunds openFile := by
  have hchars : openFile.toList = _ := String.toList_ofList
  have hname : refunds.capability.toList = _ := String.toList_ofList
  rw [NamesOccur, contains, hchars, hname]
  decide

theorem refunds_plain : PlainBlock refunds := by decide

/-- The entry lands in the file. -/
theorem refunds_added :
    AddsExactly fileRules ⟨"/repo", "/state", none, none, none⟩ refunds ⟨some openFile, []⟩ := by
  have htext : existingText ⟨some openFile, []⟩ = openFile := textOf_openFile
  have hread : readStore fileRules ⟨some openFile, []⟩
      = .ok [(.str "dependencies", .seq (fileEntries.take 1))] := by
    show readText fileRules (textOf openFile) = _
    rw [textOf_openFile]
    exact readText_of_map openFile_full load_openFile
  refine (addsExactly_iff_fits fileRules _ refunds ⟨some openFile, []⟩ (by decide) ?_ ?_).1 ?_
  · rw [htext]
    exact standard_openFile
  · refine .inr (.inr ⟨_, _, hread, rfl, fun item hitem => ?_⟩)
    rw [List.mem_singleton.mp hitem]
    exact ⟨_, _, _, rfl, rfl, rfl⟩
  · refine .appended (.str "dependencies") _ [(.str "dependencies", .seq (fileEntries.take 1))]
      ?_ refunds_plain rfl ?_ ?_ ?_ ?_ (.inl ⟨rfl, rfl⟩)
    · rw [htext]
      exact refunds_absent
    · rw [htext]
      exact openFile_full
    · rw [htext, ended_openFile]
      exact load_openFile
    · rw [htext, ended_openFile]
      rfl
    · rw [hread]
      exact fun item hitem => .inl hitem

/-- Without a file the block alone is written, which is a list and no mapping. -/
theorem absent_file_becomes_list : Standard fileRules "" refunds ∧
    ¬ AddsExactly fileRules ⟨"/repo", "/state", none, none, none⟩ refunds ⟨none, []⟩ := by
  refine ⟨⟨fileRules_listFirst, ?_, ?_, ?_, ?_, ?_, ?_, fun _ _ _ _ => rfl⟩, ?_⟩
  · exact fun data h => nomatch h
  · exact fun h => nomatch h
  · exact fun h => nomatch h
  · exact fun _ data _ h => nomatch h
  · exact fun _ h => nomatch h
  · exact fun _ entry key data _ _ h => nomatch h
  · intro h
    have hoccur : ¬ NamesOccur refunds (existingText ⟨none, []⟩) := by decide
    have hlands : Lands fileRules refunds ⟨none, []⟩ := by
      refine (adds_written_iff ?_ hoccur rfl).mp h
      exact fun hread => Bool.false_ne_true hread.1
    obtain ⟨data, items, hread, hitems, -, -⟩ := hlands
    have hload := load_of_readText hread (ne_nil_of_seq hitems)
    have hwritten : textOf (writtenText refunds ⟨none, []⟩) = dependencyBlock refunds :=
      textOf_of_not_mem (return_not_mem_block refunds_plain)
    have hlist : fileRules.load (dependencyBlock refunds) = .ok (.seq (fileEntries.drop 1)) := rfl
    rw [hwritten, hlist] at hload
    exact nomatch hload

end KeyholeWriter
