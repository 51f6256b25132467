import Keyhole.RunTypeValidation

/-!
# The shared table of known mistakes

`KNOWN_MISTAKES` is a module-level dictionary of lists, and `from_capabilities` copies it with
`dict(…)`: the copy is a new dictionary with the very same lists, to which
`_incorporate_mistake` appends.  This file gives the lists addresses.

  - `fromCapabilitiesShared`: `from_capabilities` on a memory of lists; its validator refers
    to the memory (`SharedValidator.view`).
  - `view_fromCapabilities`: read through the memory, it is the validator of the table by
    value, for whatever the shared lists hold.
  - `independent_iff_no_new_correction`: a validator does not depend on another one built
    before it, and the table stays what it was, if and only if no guidance gives one of the
    known mistakes a correction that is new.
  - `next_gap_misdirected`: one line of guidance that breaks it. -/

namespace KeyholeSharedMistakes

open KeyholeJson KeyholeRunTypes

/-- The lists of the program, by address. -/
abbrev Memory := List (List String)

/-- A dictionary of lists: each name with the address of its list. -/
abbrev Table := List (String × Nat)

/-- What a dictionary holds, through the memory. -/
def Table.read (table : Table) (memory : Memory) : Mistakes :=
  table.map fun entry => (entry.1, memory.getD entry.2 [])

/-- `KNOWN_MISTAKES`, and any copy of it that `dict` makes. -/
def knownTable : Table := knownMistakes.zipIdx.map fun entry => (entry.1.1, entry.2)

/-- The lists as the module leaves them when it is loaded. -/
def loaded : Memory := knownMistakes.map Prod.snd

/-- A dictionary under construction with the memory. -/
structure Store where
  memory : Memory
  table : Table

/-- `mistakes.setdefault(bad, [])`. -/
def Store.setdefault (store : Store) (bad : String) : Store × Nat :=
  match store.table.lookup bad with
  | some address => (store, address)
  | none => (⟨store.memory ++ [[]], store.table ++ [(bad, store.memory.length)]⟩,
      store.memory.length)

/-- `if good not in mistakes[bad]: mistakes[bad].append(good)`. -/
def appendNew (memory : Memory) (address : Nat) (good : String) : Memory :=
  let suggestions := memory.getD address []
  if suggestions.contains good then memory else memory.set address (suggestions ++ [good])

/-- A mistake with its correction, unless the name is canonical after all. -/
def Store.learn (canonical : List String) (store : Store) (bad good : String) : Store :=
  if bad ≠ "" ∧ good ≠ "" ∧ canonical.contains bad = false then
    let found := store.setdefault bad
    ⟨appendNew found.1.memory found.2 good, found.1.table⟩
  else store

/-- What a line of guidance says: a mistake and its correction. -/
def parseMistake (item : String) : Option (String × String) :=
  let text := item.toList
  if text.contains '(' && text.contains ')' then
    let bad := text.take (text.idxOf '(')
    let goodPart := (text.take (text.idxOf ')')).drop (text.idxOf '(' + 1)
    some (strip (String.ofList bad), strip (String.ofList (dropUse goodPart)))
  else
    ([['→'], ['-', '>'], ['=', '>']].findSome? fun sep => cutAt sep text).map fun parts =>
      (strip (String.ofList parts.1), strip (String.ofList parts.2))

/-- `_incorporate_mistake`. -/
def Store.incorporate (canonical : List String) (store : Store) (item : String) : Store :=
  match parseMistake item with
  | some (bad, good) => store.learn canonical bad good
  | none => store

/-- A `RunTypeValidator`, which keeps a dictionary of lists. -/
structure SharedValidator where
  canonical : List String
  table : Table
  discoveredRegistry : Option DiscoveredOperationRegistry
  discoveryAmbiguousReason : String

/-- The validator with what its lists hold. -/
def SharedValidator.view (v : SharedValidator) (memory : Memory) : RunTypeValidator where
  canonical := v.canonical
  mistakes := v.table.read memory
  discoveredRegistry := v.discoveredRegistry
  discoveryAttempted := true
  discoveryAmbiguousReason := v.discoveryAmbiguousReason
  discoveryUnavailable := false

/-- The dictionary of `from_capabilities` once the guidance is read. -/
def learnGuidance (memory : Memory) (caps : CapabilitiesResult) : Store :=
  caps.runTypeMistakes.foldl (Store.incorporate (publishedNames caps)) ⟨memory, knownTable⟩

/-- `RunTypeValidator.from_capabilities`: the memory it leaves, and the validator unless it
    raises a `TypeError`. -/
def fromCapabilitiesShared (memory : Memory) (caps : CapabilitiesResult) :
    Memory × Option SharedValidator :=
  let store := learnGuidance memory caps
  let validator := fun registry reason =>
    some (SharedValidator.mk (publishedNames caps) store.table registry reason)
  (store.memory,
    match registryFromCapabilities caps with
    | .ok registry => validator (some registry) ""
    | .error (.ambiguousAlias message) => validator none message
    | .error .typeError => none)

/-! ## The dictionary by value -/

theorem incorporateMistake_eq (canonical : List String) (mistakes : Mistakes) (item : String) :
    incorporateMistake canonical mistakes item =
      match parseMistake item with
      | some (bad, good) => learnMistake canonical mistakes bad good
      | none => mistakes := by
  rw [incorporateMistake, parseMistake]
  by_cases hparen : (item.toList.contains '(' && item.toList.contains ')') = true
  · rw [if_pos hparen, if_pos hparen]
  · rw [if_neg hparen, if_neg hparen]
    cases [['→'], ['-', '>'], ['=', '>']].findSome? fun sep => cutAt sep item.toList with
    | none => rfl
    | some parts => rfl

/-- What the dictionary of `from_capabilities` satisfies: it begins with the known names, and
    no two of its names share a list. -/
structure Store.Sound (store : Store) : Prop where
  extends_known : ∃ extra, store.table = knownTable ++ extra
  addresses : (store.table.map Prod.snd).Nodup
  allocated : ∀ entry ∈ store.table, entry.2 < store.memory.length

theorem knownTable_addresses : (knownTable.map Prod.snd).Nodup := by decide

theorem knownTable_read : knownTable.read loaded = knownMistakes := by decide

variable {memory : Memory} {bad name : String} {mistakes : Mistakes} {table : Table} {store : Store}

theorem sound_start (h : knownMistakes.length ≤ memory.length) :
    Store.Sound ⟨memory, knownTable⟩ where
  extends_known := ⟨[], (List.append_nil _).symm⟩
  addresses := knownTable_addresses
  allocated := by
    have hall : ∀ entry ∈ knownTable, entry.2 < knownMistakes.length := by decide
    exact fun entry hmem => Nat.lt_of_lt_of_le (hall entry hmem) h

/-- A list that is written to is seen by its own name only. -/
theorem read_set {address : Nat}
    (hfree : ∀ entry ∈ table, entry.2 ≠ address) (suggestions : List String) :
    table.read (memory.set address suggestions) = table.read memory := by
  refine List.map_congr_left fun entry hmem => ?_
  rw [List.getD_eq_getElem?_getD, List.getD_eq_getElem?_getD,
    List.getElem?_set_ne (Ne.symm (hfree entry hmem))]

/-- A new list is seen by no name there was. -/
theorem read_alloc
    (hallocated : ∀ entry ∈ table, entry.2 < memory.length) (suggestions : List String) :
    table.read (memory ++ [suggestions]) = table.read memory := by
  refine List.map_congr_left fun entry hmem => ?_
  rw [List.getD_eq_getElem?_getD, List.getD_eq_getElem?_getD,
    List.getElem?_append_left (hallocated entry hmem)]

/-- Appending to the list of a name is `addSuggestion`. -/
theorem read_appendNew {address : Nat} (haddresses : (table.map Prod.snd).Nodup)
    (hallocated : ∀ entry ∈ table, entry.2 < memory.length)
    (hlookup : table.lookup bad = some address) (good : String) :
    table.read (appendNew memory address good) = addSuggestion bad good (table.read memory) := by
  induction table with
  | nil => exact nomatch hlookup
  | cons entry rest ih =>
    obtain ⟨name, other⟩ := entry
    obtain ⟨hnew, hrest⟩ := List.nodup_cons.mp haddresses
    have hhere : other < memory.length := hallocated _ List.mem_cons_self
    show (name, _) :: Table.read rest _ = addSuggestion bad good ((name, _) :: Table.read rest _)
    rw [addSuggestion]
    by_cases hname : bad = name
    · rw [if_pos hname]
      rw [hname, List.lookup_cons_self] at hlookup
      have haddress : other = address := Option.some.inj hlookup
      rw [← haddress, appendNew]
      by_cases hcontains : (memory.getD other []).contains good = true
      · rw [if_pos hcontains, if_pos hcontains]
      · rw [if_neg hcontains, if_neg hcontains, read_set]
        · rw [List.getD_eq_getElem?_getD, List.getElem?_set_self hhere]
          rfl
        · intro entry hmem heq
          have hshared : entry.2 ∈ rest.map Prod.snd := List.mem_map_of_mem hmem
          exact hnew (heq ▸ hshared)
    · rw [if_neg hname]
      have hlookup' : rest.lookup bad = some address := by
        rw [List.lookup_cons, beq_eq_false_iff_ne.mpr hname] at hlookup
        exact hlookup
      have hapart : other ≠ address := by
        intro heq
        have hshared : address ∈ rest.map Prod.snd :=
          List.mem_map_of_mem (f := Prod.snd) (mem_of_lookup hlookup')
        exact hnew (heq ▸ hshared)
      have hsame : (appendNew memory address good).getD other [] = memory.getD other [] := by
        rw [appendNew]
        by_cases hcontains : (memory.getD address []).contains good = true
        · rw [if_pos hcontains]
        · rw [if_neg hcontains, List.getD_eq_getElem?_getD, List.getElem?_set_ne (Ne.symm hapart),
            ← List.getD_eq_getElem?_getD]
      rw [ih hrest (fun entry hmem => hallocated entry (List.mem_cons_of_mem _ hmem)) hlookup',
        hsame]

theorem lookup_read (table : Table) (memory : Memory) (name : String) :
    (table.read memory).lookup name = (table.lookup name).map fun address =>
      memory.getD address [] := by
  induction table with
  | nil => rfl
  | cons entry rest ih =>
    show ((entry.1, _) :: Table.read rest memory).lookup name = _
    rw [List.lookup_cons, List.lookup_cons, ih]
    cases name == entry.1 with
    | true => rfl
    | false => rfl

/-- A name that is new to the table comes last. -/
theorem addSuggestion_concat (h : mistakes.lookup bad = none) (good : String) :
    addSuggestion bad good (mistakes ++ [(bad, [])]) = addSuggestion bad good mistakes := by
  induction mistakes with
  | nil =>
    show (if bad = bad then _ else _) = _
    rw [if_pos rfl]
    rfl
  | cons entry rest ih =>
    obtain ⟨name, suggestions⟩ := entry
    rw [List.lookup_cons] at h
    by_cases hname : bad = name
    · rw [hname, beq_self_eq_true] at h
      exact nomatch h
    · rw [beq_eq_false_iff_ne.mpr hname] at h
      rw [List.cons_append, addSuggestion, addSuggestion, if_neg hname, if_neg hname, ih h]

theorem length_appendNew (memory : Memory) (address : Nat) (good : String) :
    (appendNew memory address good).length = memory.length := by
  rw [appendNew]
  by_cases hcontains : (memory.getD address []).contains good = true
  · rw [if_pos hcontains]
  · rw [if_neg hcontains, List.length_set]

/-- One line of guidance: the dictionary, read through the memory, learns what the dictionary by
    value learns. -/
theorem Store.Sound.learn (h : store.Sound) (canonical : List String) (bad good : String) :
    (store.learn canonical bad good).Sound ∧
      (store.learn canonical bad good).table.read (store.learn canonical bad good).memory =
        learnMistake canonical (store.table.read store.memory) bad good := by
  rw [Store.learn, learnMistake]
  by_cases hlearn : bad ≠ "" ∧ good ≠ "" ∧ canonical.contains bad = false
  · rw [if_pos hlearn, if_pos hlearn, Store.setdefault]
    cases hlookup : store.table.lookup bad with
    | some address =>
      refine ⟨⟨h.extends_known, h.addresses, fun entry hmem => ?_⟩, ?_⟩
      · rw [length_appendNew]
        exact h.allocated entry hmem
      · exact read_appendNew h.addresses h.allocated hlookup good
    | none =>
      obtain ⟨extra, hextra⟩ := h.extends_known
      have haddresses : ((store.table ++ [(bad, store.memory.length)]).map Prod.snd).Nodup := by
        rw [List.map_append]
        refine List.nodup_append.mpr ⟨h.addresses, List.nodup_singleton _, ?_⟩
        intro address haddress fresh hfresh heq
        obtain ⟨entry, hmem, rfl⟩ := List.mem_map.mp haddress
        have hsame : entry.2 = store.memory.length := heq.trans (List.mem_singleton.mp hfresh)
        exact Nat.lt_irrefl _ (hsame ▸ h.allocated entry hmem)
      have hallocated : ∀ entry ∈ store.table ++ [(bad, store.memory.length)],
          entry.2 < (store.memory ++ [[]]).length := by
        intro entry hmem
        rw [List.length_append]
        rcases List.mem_append.mp hmem with hmem | hmem
        · exact Nat.lt_succ_of_lt (h.allocated entry hmem)
        · rw [List.mem_singleton.mp hmem]
          exact Nat.lt_succ_self _
      refine ⟨⟨⟨extra ++ [(bad, store.memory.length)], ?_⟩, haddresses, fun entry hmem => ?_⟩, ?_⟩
      · rw [hextra, List.append_assoc]
      · rw [length_appendNew]
        exact hallocated entry hmem
      · have hnew : (store.table ++ [(bad, store.memory.length)]).lookup bad =
            some store.memory.length := by
          rw [List.lookup_append, hlookup, List.lookup_cons_self]
          rfl
        have hread : Table.read (store.table ++ [(bad, store.memory.length)])
            (store.memory ++ [[]]) = store.table.read store.memory ++ [(bad, [])] := by
          have hold := read_alloc h.allocated []
          rw [Table.read, List.map_append]
          refine congrArg₂ _ hold ?_
          show [(bad, _)] = [(bad, [])]
          rw [List.getD_eq_getElem?_getD, List.getElem?_concat_length]
          rfl
        refine (read_appendNew haddresses hallocated hnew good).trans ?_
        rw [hread]
        refine addSuggestion_concat ?_ good
        rw [lookup_read, hlookup]
        rfl
  · rw [if_neg hlearn, if_neg hlearn]
    exact ⟨h, rfl⟩

theorem Store.Sound.incorporate (h : store.Sound) (canonical : List String) (item : String) :
    (store.incorporate canonical item).Sound ∧
      (store.incorporate canonical item).table.read (store.incorporate canonical item).memory =
        incorporateMistake canonical (store.table.read store.memory) item := by
  rw [Store.incorporate, incorporateMistake_eq]
  cases parseMistake item with
  | none => exact ⟨h, rfl⟩
  | some parsed => exact h.learn canonical parsed.1 parsed.2

theorem Store.Sound.guidance (h : store.Sound) (canonical items : List String) :
    (items.foldl (Store.incorporate canonical) store).Sound ∧
      (items.foldl (Store.incorporate canonical) store).table.read
          (items.foldl (Store.incorporate canonical) store).memory =
        items.foldl (incorporateMistake canonical) (store.table.read store.memory) := by
  induction items generalizing store with
  | nil => exact ⟨h, rfl⟩
  | cons item rest ih =>
    obtain ⟨hsound, hread⟩ := h.incorporate canonical item
    rw [List.foldl_cons, List.foldl_cons, ← hread]
    exact ih hsound

section Construction

variable {memory : Memory} (caps : CapabilitiesResult)

/-- The validator a construction returns is the one of the table as the memory holds it. -/
theorem view_fromCapabilities (h : knownMistakes.length ≤ memory.length) :
    (fromCapabilitiesShared memory caps).2.map
        (fun v => v.view (fromCapabilitiesShared memory caps).1) =
      RunTypeValidator.fromCapabilities (knownTable.read memory) caps := by
  have hread : (learnGuidance memory caps).table.read (learnGuidance memory caps).memory =
      caps.runTypeMistakes.foldl (incorporateMistake (publishedNames caps))
        (knownTable.read memory) :=
    ((sound_start h).guidance (publishedNames caps) caps.runTypeMistakes).2
  rw [fromCapabilitiesShared, RunTypeValidator.fromCapabilities, ← hread]
  cases registryFromCapabilities caps with
  | ok registry => rfl
  | error raised =>
    cases raised with
    | typeError => rfl
    | ambiguousAlias message => rfl

/-- The known names come first in what the construction learned. -/
theorem read_known (h : knownMistakes.length ≤ memory.length) :
    ∃ extra, caps.runTypeMistakes.foldl (incorporateMistake (publishedNames caps))
        (knownTable.read memory) =
      knownTable.read (fromCapabilitiesShared memory caps).1 ++ extra := by
  obtain ⟨hsound, hread⟩ :=
    (sound_start h).guidance (publishedNames caps) caps.runTypeMistakes
  obtain ⟨extra, hextra⟩ := hsound.extends_known
  refine ⟨Table.read extra (fromCapabilitiesShared memory caps).1, ?_⟩
  refine hread.symm.trans ?_
  rw [hextra]
  exact List.map_append

theorem length_memory (h : knownMistakes.length ≤ memory.length) :
    knownMistakes.length ≤ (fromCapabilitiesShared memory caps).1.length := by
  obtain ⟨hsound, _⟩ := (sound_start h).guidance (publishedNames caps) caps.runTypeMistakes
  obtain ⟨extra, hextra⟩ := hsound.extends_known
  -- the addresses of the known names count up to the last
  have hlast : ("lineage.get", 9) ∈ (learnGuidance memory caps).table := by
    have hmem : ("lineage.get", 9) ∈ knownTable := by decide
    show ("lineage.get", 9) ∈ (caps.runTypeMistakes.foldl _ (⟨memory, knownTable⟩ : Store)).table
    rw [hextra]
    exact List.mem_append_left extra hmem
  exact hsound.allocated _ hlast

end Construction

/-! ## What the known names learn -/

/-- `good` is among the suggestions for `bad`. -/
def Suggests (mistakes : Mistakes) (bad good : String) : Prop :=
  ∃ suggestions, mistakes.lookup bad = some suggestions ∧ good ∈ suggestions

theorem suggests_cons {good : String} {suggestions : List String} {rest : Mistakes} :
    Suggests ((name, suggestions) :: rest) bad good ↔
      bad = name ∧ good ∈ suggestions ∨ bad ≠ name ∧ Suggests rest bad good := by
  rw [Suggests, List.lookup_cons]
  by_cases hname : bad = name
  · rw [hname, beq_self_eq_true]
    constructor
    · rintro ⟨found, heq, hmem⟩
      exact .inl ⟨rfl, Option.some.inj heq ▸ hmem⟩
    · rintro (⟨_, hmem⟩ | ⟨hne, _⟩)
      · exact ⟨suggestions, rfl, hmem⟩
      · exact absurd rfl hne
  · rw [beq_eq_false_iff_ne.mpr hname]
    constructor
    · intro h
      exact .inr ⟨hname, h⟩
    · rintro (⟨heq, _⟩ | ⟨_, h⟩)
      · exact absurd heq hname
      · exact h

theorem suggests_addSuggestion (bad good : String) (mistakes : Mistakes) :
    Suggests (addSuggestion bad good mistakes) bad good := by
  induction mistakes with
  | nil => exact suggests_cons.mpr (.inl ⟨rfl, List.mem_cons_self⟩)
  | cons entry rest ih =>
    obtain ⟨name, suggestions⟩ := entry
    rw [addSuggestion]
    by_cases hname : bad = name
    · rw [if_pos hname]
      refine suggests_cons.mpr (.inl ⟨hname, ?_⟩)
      by_cases hcontains : suggestions.contains good = true
      · rw [if_pos hcontains]
        exact List.contains_iff_mem.mp hcontains
      · rw [if_neg hcontains]
        exact List.mem_append_right _ List.mem_cons_self
    · rw [if_neg hname]
      exact suggests_cons.mpr (.inr ⟨hname, ih⟩)

/-- No suggestion is taken back. -/
theorem Suggests.addSuggestion {correction : String}
    (h : Suggests mistakes name correction) (bad good : String) :
    Suggests (addSuggestion bad good mistakes) name correction := by
  induction mistakes with
  | nil =>
    obtain ⟨suggestions, hlookup, _⟩ := h
    exact nomatch hlookup
  | cons entry rest ih =>
    obtain ⟨other, suggestions⟩ := entry
    rw [KeyholeRunTypes.addSuggestion]
    rcases suggests_cons.mp h with ⟨hname, hmem⟩ | ⟨hname, hrest⟩
    · by_cases hbad : bad = other
      · rw [if_pos hbad]
        refine suggests_cons.mpr (.inl ⟨hname, ?_⟩)
        by_cases hcontains : suggestions.contains good = true
        · rw [if_pos hcontains]
          exact hmem
        · rw [if_neg hcontains]
          exact List.mem_append_left _ hmem
      · rw [if_neg hbad]
        exact suggests_cons.mpr (.inl ⟨hname, hmem⟩)
    · by_cases hbad : bad = other
      · rw [if_pos hbad]
        exact suggests_cons.mpr (.inr ⟨hname, hrest⟩)
      · rw [if_neg hbad]
        exact suggests_cons.mpr (.inr ⟨hname, ih hrest⟩)

theorem Suggests.guidance {correction : String}
    (h : Suggests mistakes name correction) (canonical items : List String) :
    Suggests (items.foldl (incorporateMistake canonical) mistakes) name correction := by
  induction items generalizing mistakes with
  | nil => exact h
  | cons item rest ih =>
    refine ih ?_
    rw [incorporateMistake_eq]
    cases parseMistake item with
    | none => exact h
    | some parsed =>
      show Suggests (learnMistake canonical mistakes parsed.1 parsed.2) name correction
      rw [learnMistake]
      by_cases hlearn : parsed.1 ≠ "" ∧ parsed.2 ≠ "" ∧ canonical.contains parsed.1 = false
      · rw [if_pos hlearn]
        exact h.addSuggestion _ _
      · rw [if_neg hlearn]
        exact h

theorem addSuggestion_of_suggests {good : String}
    (h : Suggests mistakes bad good) : addSuggestion bad good mistakes = mistakes := by
  induction mistakes with
  | nil =>
    obtain ⟨suggestions, hlookup, _⟩ := h
    exact nomatch hlookup
  | cons entry rest ih =>
    obtain ⟨name, suggestions⟩ := entry
    rw [addSuggestion]
    rcases suggests_cons.mp h with ⟨hname, hmem⟩ | ⟨hname, hrest⟩
    · rw [if_pos hname, if_pos (List.contains_iff_mem.mpr hmem)]
    · rw [if_neg hname, ih hrest]

theorem addSuggestion_append (h : mistakes.lookup bad = none) (good : String) (extra : Mistakes) :
    addSuggestion bad good (mistakes ++ extra) = mistakes ++ addSuggestion bad good extra := by
  induction mistakes with
  | nil => rfl
  | cons entry rest ih =>
    obtain ⟨name, suggestions⟩ := entry
    rw [List.lookup_cons] at h
    by_cases hname : bad = name
    · rw [hname, beq_self_eq_true] at h
      exact nomatch h
    · rw [beq_eq_false_iff_ne.mpr hname] at h
      rw [List.cons_append, addSuggestion, if_neg hname, ih h]
      rfl

/-- A line of guidance gives one of the known mistakes a correction that the table does not
    have. -/
def NewCorrection (caps : CapabilitiesResult) : Prop :=
  ∃ item ∈ caps.runTypeMistakes, ∃ bad good suggestions,
    parseMistake item = some (bad, good) ∧ good ≠ "" ∧ bad ∉ publishedNames caps ∧
      knownMistakes.lookup bad = some suggestions ∧ good ∉ suggestions

theorem knownMistakes_named {suggestions : List String}
    (h : knownMistakes.lookup bad = some suggestions) : bad ≠ "" := by
  rintro rfl
  have hnone : knownMistakes.lookup "" = none := by decide
  rw [hnone] at h
  exact nomatch h

/-- Without a new correction the known names stay as they are. -/
theorem known_kept {caps : CapabilitiesResult} (h : ¬NewCorrection caps) :
    ∃ extra, caps.runTypeMistakes.foldl (incorporateMistake (publishedNames caps)) knownMistakes =
      knownMistakes ++ extra := by
  have hloop : ∀ items : List String, (∀ item ∈ items, item ∈ caps.runTypeMistakes) →
      ∀ extra : Mistakes, ∃ extra', items.foldl (incorporateMistake (publishedNames caps))
        (knownMistakes ++ extra) = knownMistakes ++ extra' := by
    intro items
    induction items with
    | nil => exact fun _ extra => ⟨extra, rfl⟩
    | cons item rest ih =>
      intro hitems extra
      have hstep : ∃ extra', incorporateMistake (publishedNames caps) (knownMistakes ++ extra) item =
          knownMistakes ++ extra' := by
        rw [incorporateMistake_eq]
        cases hparse : parseMistake item with
        | none => exact ⟨extra, rfl⟩
        | some parsed =>
          show ∃ extra', learnMistake _ _ parsed.1 parsed.2 = _
          rw [learnMistake]
          by_cases hlearn : parsed.1 ≠ "" ∧ parsed.2 ≠ "" ∧
              (publishedNames caps).contains parsed.1 = false
          · rw [if_pos hlearn]
            cases hlookup : knownMistakes.lookup parsed.1 with
            | none => exact ⟨_, addSuggestion_append hlookup parsed.2 extra⟩
            | some suggestions =>
              -- a known name: the correction is one the table has
              have hold : parsed.2 ∈ suggestions := by
                refine Classical.byContradiction fun hnew => h ?_
                refine ⟨item, hitems item List.mem_cons_self, parsed.1, parsed.2, suggestions,
                  hparse, hlearn.2.1, fun hmem => ?_, hlookup, hnew⟩
                rw [List.contains_iff_mem.mpr hmem] at hlearn
                exact nomatch hlearn.2.2
              refine ⟨extra, addSuggestion_of_suggests ⟨suggestions, ?_, hold⟩⟩
              rw [List.lookup_append, hlookup]
              rfl
          · rw [if_neg hlearn]
            exact ⟨extra, rfl⟩
      obtain ⟨extra', hstep⟩ := hstep
      rw [List.foldl_cons, hstep]
      exact ih (fun other hother => hitems other (List.mem_cons_of_mem item hother)) extra'
  obtain ⟨extra, hextra⟩ := hloop caps.runTypeMistakes (fun _ h => h) []
  rw [List.append_nil] at hextra
  exact ⟨extra, hextra⟩

/-- With one, the suggestions of a known name have grown. -/
theorem known_changed {caps : CapabilitiesResult} (h : NewCorrection caps) (extra : Mistakes) :
    caps.runTypeMistakes.foldl (incorporateMistake (publishedNames caps)) knownMistakes ≠
      knownMistakes ++ extra := by
  obtain ⟨item, hitem, bad, good, suggestions, hparse, hgood, hpublished, hlookup, hnew⟩ := h
  intro heq
  have hlearn : bad ≠ "" ∧ good ≠ "" ∧ (publishedNames caps).contains bad = false := by
    refine ⟨knownMistakes_named hlookup, hgood, Bool.eq_false_iff.mpr fun hcontains => ?_⟩
    exact hpublished (List.contains_iff_mem.mp hcontains)
  -- from the item on the correction is suggested
  have hloop : ∀ (items : List String) (mistakes : Mistakes), item ∈ items →
      Suggests (items.foldl (incorporateMistake (publishedNames caps)) mistakes) bad good := by
    intro items
    induction items with
    | nil => exact nofun
    | cons first rest ih =>
      intro mistakes hmem
      rcases List.mem_cons.mp hmem with rfl | hmem
      · refine Suggests.guidance ?_ _ rest
        rw [incorporateMistake_eq, hparse]
        show Suggests (learnMistake _ _ bad good) bad good
        rw [learnMistake, if_pos hlearn]
        exact suggests_addSuggestion bad good mistakes
      · exact ih _ hmem
  obtain ⟨found, hfound, hgood⟩ := hloop caps.runTypeMistakes knownMistakes hitem
  rw [heq, List.lookup_append, hlookup] at hfound
  exact hnew (Option.some.inj hfound ▸ hgood)

/-! ## Two servers -/

/-- A construction leaves the shared table as it was exactly when it learns no new
    correction. -/
theorem table_kept_iff (caps : CapabilitiesResult) (hlength : knownMistakes.length ≤ memory.length)
    (hread : knownTable.read memory = knownMistakes) :
    knownTable.read (fromCapabilitiesShared memory caps).1 = knownMistakes ↔
      ¬NewCorrection caps := by
  obtain ⟨extra, hextra⟩ := read_known caps hlength
  rw [hread] at hextra
  constructor
  · intro hkept hnew
    rw [hkept] at hextra
    exact known_changed hnew extra hextra
  · intro hnew
    obtain ⟨extra', hextra'⟩ := known_kept hnew
    have hlen : (knownTable.read (fromCapabilitiesShared memory caps).1).length =
        knownMistakes.length := by
      rw [Table.read, List.length_map]
      rfl
    exact (List.append_inj (hextra.symm.trans hextra') hlen).1

/-- What a validator answers: the status and the suggestions, or nothing when the construction
    raised. -/
def answer (lower : String → String) (built : Memory × Option SharedValidator)
    (runType : String) : Option (RunTypeStatus × List String) :=
  built.2.map fun v =>
    (((v.view built.1).check lower runType).status,
      ((v.view built.1).check lower runType).suggestions)

theorem answer_eq (lower : String → String) (caps : CapabilitiesResult)
    (h : knownMistakes.length ≤ memory.length) (runType : String) :
    answer lower (fromCapabilitiesShared memory caps) runType =
      (RunTypeValidator.fromCapabilities (knownTable.read memory) caps).map fun v =>
        ((v.check lower runType).status, (v.check lower runType).suggestions) := by
  rw [← view_fromCapabilities caps h, Option.map_map]
  rfl

theorem length_loaded : knownMistakes.length ≤ loaded.length := Nat.le_refl _

/-- Building from `a` first leaves every answer of the validator from `b`, and both
    constructions leave the shared table. -/
def Independent (a b : CapabilitiesResult) : Prop :=
  let afterA := (fromCapabilitiesShared loaded a).1
  (∀ (lower : String → String) (runType : String),
      answer lower (fromCapabilitiesShared afterA b) runType =
        answer lower (fromCapabilitiesShared loaded b) runType) ∧
    knownTable.read afterA = knownMistakes ∧
    knownTable.read (fromCapabilitiesShared afterA b).1 = knownMistakes

/-- Validators do not influence each other, and the table stays what it was, if and only if no
    line of guidance of either server gives a known mistake a new correction. -/
theorem independent_iff_no_new_correction (a b : CapabilitiesResult) :
    Independent a b ↔ ¬NewCorrection a ∧ ¬NewCorrection b := by
  have hlength := length_memory a length_loaded
  constructor
  · intro ⟨_, hkept, hkept'⟩
    exact ⟨(table_kept_iff a length_loaded knownTable_read).mp hkept,
      (table_kept_iff b hlength hkept).mp hkept'⟩
  · intro ⟨ha, hb⟩
    have hkept := (table_kept_iff a length_loaded knownTable_read).mpr ha
    refine ⟨fun lower runType => ?_, hkept, (table_kept_iff b hlength hkept).mpr hb⟩
    rw [answer_eq lower b hlength, answer_eq lower b length_loaded, hkept, knownTable_read]

/-- A server that suggests another correction for `gaps.next`. -/
def misdirecting : CapabilitiesResult := ⟨fun _ => operationOf [] [], [], [], ["gaps.next -> gaps.other"]⟩

/-- A server without guidance. -/
def silent : CapabilitiesResult := ⟨fun _ => operationOf [] [], [], [], []⟩

/-- After the first server, the validator of the second suggests the first one's correction. -/
theorem next_gap_misdirected :
    answer id (fromCapabilitiesShared (fromCapabilitiesShared loaded misdirecting).1 silent)
        "gaps.next" = some (.invalid, ["gaps.next_open_canonical", "gaps.other"]) ∧
      answer id (fromCapabilitiesShared loaded silent) "gaps.next" =
        some (.invalid, ["gaps.next_open_canonical"]) ∧
      ¬∀ a b, Independent a b := by
  have hafter : answer id (fromCapabilitiesShared (fromCapabilitiesShared loaded misdirecting).1
      silent) "gaps.next" = some (.invalid, ["gaps.next_open_canonical", "gaps.other"]) := by
    decide
  have halone : answer id (fromCapabilitiesShared loaded silent) "gaps.next" =
      some (.invalid, ["gaps.next_open_canonical"]) := by decide
  refine ⟨hafter, halone, fun h => ?_⟩
  have hsame := (h misdirecting silent).1 id "gaps.next"
  rw [hafter, halone] at hsame
  exact absurd hsame (by decide)

end KeyholeSharedMistakes
