import Keyhole.YamlSubset
import Mathlib.Data.List.Chain

/-!
# Trees printed in block style, read without PyYAML

A mapping is printed with a fixed number of columns for a level and the items of a list below
their key.  `_parse_yaml_block` expects what is nested two columns deeper: at any other step the
nested loop leaves at once, and its lines are read as entries of the mapping around it.

* `Mapping`, `Mapping.lines`: the trees, and their lines;
* `parses_lines`: at a step of two every mapping is read entry by entry;
* `hoisted_flat`: at any other step nothing nested is in the result;
* `loadYamlSubset_print_iff`: the printed trees that are read back. -/

namespace KeyholeSubset

open KeyholeJson KeyholeNamespace
open KeyholeNames (Trimmed stripText_of_trimmed trimmed_stripText dropWhile_of_first trimmed_nil)
open KeyholeRepoName (splitLines Unbroken splitLines_line)

/-! ## Trees -/

/-- A mapping with strings, lists of strings and mappings, entry by entry. -/
inductive Mapping where
  | nil
  | leaf (key value : String) (more : Mapping)
  /-- a list with a first item -/
  | list (key first : String) (items : List String) (more : Mapping)
  | nested (key : String) (child more : Mapping)
  deriving DecidableEq, Repr

namespace Mapping

/-- The keys of the mapping itself. -/
def keys : Mapping → List String
  | nil => []
  | leaf key _ more => key :: more.keys
  | list key _ _ more => key :: more.keys
  | nested key _ more => key :: more.keys

/-- The mapping as the reader is to return it. -/
def toDict : Mapping → Dict
  | nil => []
  | leaf key value more => (key, .str value) :: more.toDict
  | list key first items more => (key, .arr ((first :: items).map .str)) :: more.toDict
  | nested key child more => (key, .obj child.toDict) :: more.toDict

/-- Nothing is nested in the mapping. -/
def Flat : Mapping → Prop
  | nil => True
  | leaf _ _ more => more.Flat
  | list _ _ _ _ => False
  | nested _ _ _ => False

instance decidableFlat : (m : Mapping) → Decidable m.Flat
  | nil => inferInstanceAs (Decidable True)
  | leaf _ _ more => decidableFlat more
  | list _ _ _ _ => inferInstanceAs (Decidable False)
  | nested _ _ _ => inferInstanceAs (Decidable False)

/-- `n` blanks. -/
def pad (n : Nat) : Text := List.replicate n ' '

/-- The line of an item. -/
def itemText (n : Nat) (text : Text) : Text := pad n ++ '-' :: ' ' :: text

/-- The lines of the mapping, its strings spelled by `spell`. -/
def lines (spell : String → Text) (step indent : Nat) : Mapping → List Text
  | nil => []
  | leaf key value more =>
      (pad indent ++ (key.toList ++ ':' :: ' ' :: spell value)) :: more.lines spell step indent
  | list key first items more =>
      (pad indent ++ (key.toList ++ [':']))
        :: ((first :: items).map fun item => itemText (indent + step) (spell item))
        ++ more.lines spell step indent
  | nested key child more =>
      (pad indent ++ (key.toList ++ [':'])) :: child.lines spell step (indent + step)
        ++ more.lines spell step indent

/-- The printed text. -/
def print (spell : String → Text) (step : Nat) (m : Mapping) : String :=
  String.ofList ((m.lines spell step 0).flatMap (· ++ ['\n']))

end Mapping

/-- A key that is printed as it is: a plain scalar with neither a colon nor a `#`. -/
structure PlainKey (key : Text) : Prop where
  ne_nil : key ≠ []
  unbroken : Unbroken key
  trimmed : Trimmed key
  no_colon : ':' ∉ key
  no_hash : '#' ∉ key
  no_item : ¬ ['-', ' '].isPrefixOf key = true

/-- What every scalar on one line has, plain or quoted. -/
structure OneLine (text : Text) : Prop where
  ne_nil : text ≠ []
  unbroken : Unbroken text
  trimmed : Trimmed text
  no_colon_last : text.getLast? ≠ some ':'
  no_header : text ∉ blockHeaders

namespace Mapping

/-- A tree that can be printed: distinct keys, scalars on one line, and nothing nested is
    empty. -/
def Printable (spell : String → Text) : Mapping → Prop
  | nil => True
  | leaf key value more =>
      PlainKey key.toList ∧ OneLine (spell value) ∧ key ∉ more.keys ∧ more.Printable spell
  | list key first items more =>
      PlainKey key.toList ∧ (∀ item ∈ first :: items, OneLine (spell item)) ∧ key ∉ more.keys ∧
        more.Printable spell
  | nested key child more =>
      PlainKey key.toList ∧ child ≠ nil ∧ child.Printable spell ∧ key ∉ more.keys ∧
        more.Printable spell

end Mapping

/-- The reader takes the spelling for the string: quotes around it, or a text that is no
    reserved word and no number. -/
def SpelledAs (text : Text) (value : String) : Prop :=
  reservedWords.lookup text = none ∧
    if isQuoted text then (text.drop 1).dropLast = value.toList
    else floatLiteral text = false ∧ (leadingZero text = true ∨ intLiteral text = none) ∧
      text = value.toList

/-- The reader takes every string of the tree for itself. -/
def Mapping.ReadsBack (spell : String → Text) : Mapping → Prop
  | nil => True
  | leaf _ value more => SpelledAs (spell value) value ∧ more.ReadsBack spell
  | list _ first items more =>
      (∀ item ∈ first :: items, ':' ∉ spell item ∧ SpelledAs (spell item) item) ∧
        more.ReadsBack spell
  | nested _ child more => child.ReadsBack spell ∧ more.ReadsBack spell

/-! ## Printed lines -/

variable {m : Mapping} {key text : Text} {rest : List Text} {n : Nat} {s : Block}
variable {found : Json × List Text} {d : Dict}

section Lines

open Mapping (pad itemText)

theorem dropWhile_pad {p : Char → Bool} (hp : p ' ' = true) (n : Nat) (text : Text) :
    (pad n ++ text).dropWhile p = text.dropWhile p := by
  induction n with
  | zero => rfl
  | succ n ih =>
    show (' ' :: (pad n ++ text)).dropWhile p = text.dropWhile p
    rw [List.dropWhile_cons_of_pos hp, ih]

theorem stripText_pad (n : Nat) (text : Text) : stripText (pad n ++ text) = stripText text := by
  rw [stripText, dropWhile_pad (by decide), stripText]

/-- What stands on a printed line after its blanks. -/
structure Content (text : Text) : Prop where
  ne_nil : text ≠ []
  trimmed : Trimmed text
  no_comment : text.head? ≠ some '#'

variable {text : Text} {n : Nat}

theorem Content.strip (h : Content text) : stripText (pad n ++ text) = text := by
  rw [stripText_pad, stripText_of_trimmed h.trimmed]

theorem Content.not_blank (h : Content text) : isBlank (pad n ++ text) = false := by
  rw [isBlank, h.strip, dropWhile_pad (by decide), dropWhile_of_first h.trimmed.first,
    List.isEmpty_eq_false_iff.mpr h.ne_nil]
  exact beq_false_of_ne h.no_comment

theorem Content.indent (h : Content text) : indentOf (pad n ++ text) = n := by
  have hfirst : text.dropWhile (· == ' ') = text := by
    cases text with
    | nil => rfl
    | cons c rest =>
      refine List.dropWhile_cons_of_neg fun hc => ?_
      have hspace := h.trimmed.first c rfl
      rw [beq_iff_eq.mp hc] at hspace
      exact absurd hspace (by decide)
  rw [indentOf, dropWhile_pad rfl, hfirst, List.length_append, pad, List.length_replicate]
  exact Nat.add_sub_cancel n text.length

theorem head?_key (h : key ≠ []) (rest : Text) : (key ++ rest).head? = key.head? := by
  cases key with
  | nil => exact absurd rfl h
  | cons c key => rfl

theorem PlainKey.content (h : PlainKey key) {rest : Text} (hne : rest ≠ [])
    (hlast : ∀ c ∈ rest.getLast?, isSpace c = false) : Content (key ++ rest) where
  ne_nil := List.append_ne_nil_of_left_ne_nil h.ne_nil rest
  trimmed := by
    constructor
    · rw [head?_key h.ne_nil]
      exact h.trimmed.first
    · rw [List.getLast?_append_of_ne_nil _ hne]
      exact hlast
  no_comment := by
    rw [head?_key h.ne_nil]
    exact fun hhead => h.no_hash (List.mem_of_head? hhead)

theorem PlainKey.entry (h : PlainKey key) (ht : OneLine text) :
    Content (key ++ ':' :: ' ' :: text) := by
  refine h.content (List.cons_ne_nil _ _) ?_
  rw [show ':' :: ' ' :: text = [':', ' '] ++ text from rfl,
    List.getLast?_append_of_ne_nil _ ht.ne_nil]
  exact ht.trimmed.last

theorem PlainKey.opener (h : PlainKey key) : Content (key ++ [':']) := by
  refine h.content (List.cons_ne_nil _ _) fun c hc => ?_
  rw [← Option.some.inj hc]
  decide

theorem OneLine.item (h : OneLine text) : Content ('-' :: ' ' :: text) where
  ne_nil := List.cons_ne_nil _ _
  trimmed := by
    constructor
    · intro c hc
      rw [← Option.some.inj hc]
      decide
    · rw [show '-' :: ' ' :: text = ['-', ' '] ++ text from rfl,
        List.getLast?_append_of_ne_nil _ h.ne_nil]
      exact h.trimmed.last
  no_comment := nofun

theorem beforeColon_key (h : ':' ∉ key) (rest : Text) :
    beforeColon (key ++ ':' :: rest) = key := by
  induction key with
  | nil => rfl
  | cons c key ih =>
    have hc : c ≠ ':' := fun hc => h (hc ▸ List.mem_cons_self)
    have hkey : ':' ∉ key := fun hmem => h (List.mem_cons_of_mem c hmem)
    rw [beforeColon, List.cons_append, List.takeWhile_cons, if_pos (bne_iff_ne.mpr hc)]
    exact congrArg (c :: ·) (ih hkey)

theorem afterColon_key (h : ':' ∉ key) (rest : Text) :
    afterColon (key ++ ':' :: rest) = rest := by
  induction key with
  | nil => rfl
  | cons c key ih =>
    have hc : c ≠ ':' := fun hc => h (hc ▸ List.mem_cons_self)
    have hkey : ':' ∉ key := fun hmem => h (List.mem_cons_of_mem c hmem)
    rw [afterColon, List.cons_append, List.dropWhile_cons, if_pos (bne_iff_ne.mpr hc)]
    exact ih hkey

theorem lineOf_key (h : PlainKey key) (rest : Text) :
    lineOf (key ++ ':' :: rest) = keyLine (key ++ ':' :: rest) := by
  rw [lineOf]
  intro value heq
  apply h.no_item
  obtain ⟨c, key', rfl⟩ := List.exists_cons_of_ne_nil h.ne_nil
  cases key' with
  | nil => exact nomatch (List.cons.inj (List.cons.inj heq).2).1
  | cons d key' =>
    have hc : c = '-' := (List.cons.inj heq).1
    have hd : d = ' ' := (List.cons.inj (List.cons.inj heq).2).1
    rw [hc, hd]
    rfl

theorem colon_contained (key rest : Text) : (key ++ ':' :: rest).contains ':' = true :=
  List.contains_iff_mem.mpr (List.mem_append_right _ List.mem_cons_self)

theorem lineOf_entry (h : PlainKey key) (ht : OneLine text) :
    lineOf (key ++ ':' :: ' ' :: text) = .entry key text := by
  have htext : stripText (' ' :: text) = text := by
    rw [show ' ' :: text = pad 1 ++ text from rfl, stripText_pad, stripText_of_trimmed ht.trimmed]
  have hheader : ¬ blockHeaders.contains text = true :=
    fun hmem => ht.no_header (List.contains_iff_mem.mp hmem)
  have hfull : ¬ text.isEmpty = true := fun hempty => ht.ne_nil (List.isEmpty_iff.mp hempty)
  rw [lineOf_key h, keyLine]
  simp only [beforeColon_key h.no_colon, afterColon_key h.no_colon, htext,
    stripText_of_trimmed h.trimmed, colon_contained, if_neg hheader, if_neg hfull]
  rfl

theorem lineOf_opener (h : PlainKey key) : lineOf (key ++ [':']) = .opener key := by
  rw [lineOf_key h, keyLine]
  simp only [beforeColon_key h.no_colon, afterColon_key h.no_colon,
    stripText_of_trimmed h.trimmed, colon_contained]
  rfl

theorem lineOf_item (h : OneLine text) : lineOf ('-' :: ' ' :: text) =
    if ':' ∈ text then .mappedItem (stripText (beforeColon text)) (stripText (afterColon text))
    else .item text := by
  have hlast : (text.getLast? != some ':') = true := bne_iff_ne.mpr h.no_colon_last
  have hfull : ¬ text.isEmpty = true := fun hempty => h.ne_nil (List.isEmpty_iff.mp hempty)
  show itemLine text = _
  rw [itemLine, hlast, Bool.and_true, if_neg h.no_colon_last, if_neg hfull]
  by_cases hcolon : ':' ∈ text
  · rw [if_pos (List.contains_iff_mem.mpr hcolon), if_pos hcolon]
  · rw [if_neg fun hmem => hcolon (List.contains_iff_mem.mp hmem), if_neg hcolon]

theorem breaksAt_own (mode : Mode) (raw : Text) (h : indentOf raw = n) :
    breaksAt n mode raw = false := by
  rw [breaksAt, h, decide_eq_false (Nat.lt_irrefl n)]
  rfl

theorem breaksAt_above {mode : Mode} {raw : Text} (h : indentOf raw < n) :
    breaksAt n mode raw = true := by
  rw [breaksAt, decide_eq_true h]
  rfl

end Lines

/-! ## Two columns for a level -/

/-- What an item of a list is read as. -/
def itemValue (text : Text) : Json :=
  if ':' ∈ text then
    .obj [(String.ofList (stripText (beforeColon text)),
      yamlScalar (stripText (afterColon text)))]
  else yamlScalar text

/-- What the mapping is read as, entry by entry. -/
def Mapping.readBack (spell : String → Text) : Mapping → Dict
  | nil => []
  | leaf key value more => (key, yamlScalar (spell value)) :: more.readBack spell
  | list key first items more =>
      (key, .arr ((first :: items).map fun item => itemValue (spell item)))
        :: more.readBack spell
  | nested key child more => (key, .obj (child.readBack spell)) :: more.readBack spell

/-- The items and the entries that are added one after another. -/
def Block.addItems (s : Block) (values : List Json) : Block := values.foldl Block.addItem s

def Block.addEntries (s : Block) (d : Dict) : Block :=
  d.foldl (fun s entry => s.addEntry entry.1.toList entry.2) s

/-- The lines are over, or go on at fewer than `n` columns. -/
def Stops (n : Nat) (rest : List Text) : Prop :=
  ∀ raw ∈ rest.head?, isBlank raw = false ∧ indentOf raw < n

theorem stops_nil (n : Nat) : Stops n [] := by
  intro raw hraw
  exact nomatch hraw

theorem Stops.mono {n' : Nat} (h : Stops n rest) (hle : n ≤ n') :
    Stops n' rest :=
  fun raw hraw => ⟨(h raw hraw).1, Nat.lt_of_lt_of_le (h raw hraw).2 hle⟩

theorem parses_stop (h : Stops n rest) (s : Block) :
    Parses rest n s (s.value, rest) := by
  cases rest with
  | nil => exact parses_nil
  | cons raw rest =>
    obtain ⟨hfull, habove⟩ := h raw rfl
    exact parses_break hfull (breaksAt_above habove)

section StepTwo

open Mapping (itemText pad)

variable {spell : String → Text}

/-- The items of a list are read one by one. -/
theorem parses_items (hstop : Stops (n + 2) rest)
    {items : List String} (h : ∀ item ∈ items, OneLine (spell item))
    (hrest : Parses rest n (s.addItems (items.map fun item => itemValue (spell item))) found) :
    Parses ((items.map fun item => itemText n (spell item)) ++ rest) n s found := by
  induction items generalizing s with
  | nil => exact hrest
  | cons item items ih =>
    have hitem : OneLine (spell item) := h item List.mem_cons_self
    have hmore := fun other hother => h other (List.mem_cons_of_mem item hother)
    have hnext : Parses ((items.map fun item => itemText n (spell item)) ++ rest) n
        (s.addItem (itemValue (spell item))) found := ih hmore hrest
    have hfull : isBlank (itemText n (spell item)) = false := hitem.item.not_blank
    have hindent : indentOf (itemText n (spell item)) = n := hitem.item.indent
    have hline : lineOf (stripText (itemText n (spell item))) =
        if ':' ∈ spell item then
          .mappedItem (stripText (beforeColon (spell item))) (stripText (afterColon (spell item)))
        else .item (spell item) := by
      rw [itemText, hitem.item.strip, lineOf_item hitem]
    by_cases hcolon : ':' ∈ spell item
    · rw [if_pos hcolon] at hline
      -- below an item at these columns there is nothing
      have hstops : Stops (n + 2)
          ((items.map fun item => itemText n (spell item)) ++ rest) := by
        cases items with
        | nil => exact hstop
        | cons next items =>
          intro raw hraw
          rw [← Option.some.inj hraw]
          have hother : OneLine (spell next) := hmore next List.mem_cons_self
          exact ⟨hother.item.not_blank,
            hother.item.indent.symm ▸ Nat.lt_add_of_pos_right Nat.two_pos⟩
      have hnested : Parses ((items.map fun item => itemText n (spell item)) ++ rest)
          (indentOf (itemText n (spell item)) + 2) {}
          (Block.value {}, (items.map fun item => itemText n (spell item)) ++ rest) := by
        rw [hindent]
        exact parses_stop hstops {}
      refine parses_mappedItem hfull (breaksAt_own _ _ hindent) hline hnested ?_
      rw [itemValue, if_pos hcolon] at hnext
      exact hnext
    · rw [if_neg hcolon] at hline
      refine parses_item hfull (breaksAt_own _ _ hindent) hline ?_
      rw [itemValue, if_neg hcolon] at hnext
      exact hnext

theorem Block.addItems_value (s : Block) (hmode : s.mode = .list) (values : List Json) :
    (s.addItems values).value = .arr (s.items ++ values) := by
  induction values generalizing s with
  | nil =>
    show s.value = _
    rw [Block.value, if_pos hmode, List.append_nil]
  | cons v values ih =>
    show ((s.addItem v).addItems values).value = _
    rw [ih (s.addItem v) rfl]
    show Json.arr ((s.items ++ [v]) ++ values) = _
    rw [List.append_assoc, List.singleton_append]

theorem set_fresh {key : String} (v : Json) (h : key ∉ d.map Prod.fst) :
    d.set key v = d ++ [(key, v)] := by
  induction d with
  | nil => rfl
  | cons kv d ih =>
    have hne : key ≠ kv.1 := fun heq => h (heq ▸ List.mem_cons_self)
    rw [Dict.set, if_neg hne, ih fun hmem => h (List.mem_cons_of_mem _ hmem), List.cons_append]

theorem Block.addEntries_value (h : (d.map Prod.fst).Nodup)
    (hmode : s.mode ≠ .list) (hfresh : ∀ key ∈ d.map Prod.fst, key ∉ s.result.map Prod.fst) :
    (s.addEntries d).value = .obj (s.result ++ d) := by
  induction d generalizing s with
  | nil =>
    show s.value = _
    rw [Block.value, if_neg hmode, List.append_nil]
  | cons kv d ih =>
    obtain ⟨hkey, hnodup⟩ := List.nodup_cons.mp h
    have hnew : kv.1 ∉ s.result.map Prod.fst := hfresh kv.1 List.mem_cons_self
    have hresult : (s.addEntry kv.1.toList kv.2).result = s.result ++ [kv] := by
      rw [Block.addEntry, String.ofList_toList]
      exact set_fresh kv.2 hnew
    show ((s.addEntry kv.1.toList kv.2).addEntries d).value = _
    have hblock : (s.addEntry kv.1.toList kv.2).mode ≠ .list :=
      fun h : Mode.block = .list => nomatch h
    rw [ih hnodup hblock, hresult, List.append_assoc, List.singleton_append]
    intro key hmem hin
    rw [hresult, List.map_append, List.mem_append] at hin
    rcases hin with hin | hin
    · exact hfresh key (List.mem_cons_of_mem _ hmem) hin
    · exact hkey (List.mem_singleton.mp hin ▸ hmem)

theorem Mapping.readBack_keys (m : Mapping) :
    (m.readBack spell).map Prod.fst = m.keys := by
  induction m with
  | nil => rfl
  | leaf key value more ih => exact congrArg (key :: ·) ih
  | list key first items more ih => exact congrArg (key :: ·) ih
  | nested key child more ihChild ih => exact congrArg (key :: ·) ih

theorem Mapping.Printable.nodup (h : m.Printable spell) : m.keys.Nodup := by
  induction m with
  | nil => exact List.nodup_nil
  | leaf key value more ih =>
    obtain ⟨-, -, hkey, hmore⟩ := h
    exact List.nodup_cons.mpr ⟨hkey, ih hmore⟩
  | list key first items more ih =>
    obtain ⟨-, -, hkey, hmore⟩ := h
    exact List.nodup_cons.mpr ⟨hkey, ih hmore⟩
  | nested key child more ihChild ih =>
    obtain ⟨-, -, -, hkey, hmore⟩ := h
    exact List.nodup_cons.mpr ⟨hkey, ih hmore⟩

/-- A nested loop that starts afresh returns the mapping. -/
theorem Mapping.Printable.value (h : m.Printable spell) :
    (Block.addEntries {} (m.readBack spell)).value = .obj (m.readBack spell) := by
  have hnodup : ((m.readBack spell).map Prod.fst).Nodup := by
    rw [m.readBack_keys]
    exact h.nodup
  exact Block.addEntries_value hnodup nofun fun _ _ => List.not_mem_nil

/-- The first line of a printed mapping stands at its own columns. -/
theorem Mapping.Printable.head (h : m.Printable spell) (step indent : Nat) :
    ∀ raw ∈ (m.lines spell step indent).head?, isBlank raw = false ∧ indentOf raw = indent := by
  intro raw hraw
  cases m with
  | nil => exact nomatch hraw
  | leaf key value more =>
    rw [← Option.some.inj hraw]
    exact ⟨(h.1.entry h.2.1).not_blank, (h.1.entry h.2.1).indent⟩
  | list key first items more =>
    rw [← Option.some.inj hraw]
    exact ⟨h.1.opener.not_blank, h.1.opener.indent⟩
  | nested key child more =>
    rw [← Option.some.inj hraw]
    exact ⟨h.1.opener.not_blank, h.1.opener.indent⟩

theorem Mapping.Printable.stops (h : m.Printable spell) (step indent : Nat)
    (hrest : Stops n rest) (hn : indent < n) :
    Stops n (m.lines spell step indent ++ rest) := by
  cases hlines : m.lines spell step indent with
  | nil => exact hrest
  | cons raw more =>
    intro raw' hraw
    obtain rfl := Option.some.inj hraw
    have hhead := h.head step indent raw (by rw [hlines]; rfl)
    exact ⟨hhead.1, hhead.2.symm ▸ hn⟩

/-- At a step of two every mapping is read entry by entry. -/
theorem parses_lines (h : m.Printable spell) {indent : Nat} (hstop : Stops (indent + 2) rest)
    (hrest : Parses rest indent (s.addEntries (m.readBack spell)) found) :
    Parses (m.lines spell 2 indent ++ rest) indent s found := by
  induction m generalizing indent rest s found with
  | nil => exact hrest
  | leaf key value more ih =>
    obtain ⟨hkey, hvalue, -, hmore⟩ := h
    have hcontent := hkey.entry hvalue
    refine parses_entry hcontent.not_blank (breaksAt_own _ _ hcontent.indent)
      (hcontent.strip.symm ▸ lineOf_entry hkey hvalue) (ih hmore hstop hrest)
  | list key first items more ih =>
    obtain ⟨hkey, hitems, -, hmore⟩ := h
    have hcontent := hkey.opener
    have hafter : Stops (indent + 2) (more.lines spell 2 indent ++ rest) :=
      hmore.stops 2 indent hstop (Nat.lt_add_of_pos_right Nat.two_pos)
    have hnested := parses_items (hafter.mono (Nat.le_add_right _ 2)) hitems
      (parses_stop hafter
        (Block.addItems {} ((first :: items).map fun item => itemValue (spell item))))
    have hindent : indentOf (pad indent ++ (key.toList ++ [':'])) = indent := hcontent.indent
    rw [Mapping.lines, List.append_assoc]
    refine parses_opener hcontent.not_blank (breaksAt_own _ _ hindent)
      (hcontent.strip.symm ▸ lineOf_opener hkey) (by rw [hindent]; exact hnested) ?_
    refine ih hmore hstop ?_
    have hvalue : (Block.addItems {} ((first :: items).map fun item => itemValue (spell item))).value
        = .arr ((first :: items).map fun item => itemValue (spell item)) :=
      Block.addItems_value (Block.addItem {} _) rfl _
    rw [hvalue]
    exact hrest
  | nested key child more ihChild ih =>
    obtain ⟨hkey, -, hchild, -, hmore⟩ := h
    have hcontent := hkey.opener
    have hafter : Stops (indent + 2) (more.lines spell 2 indent ++ rest) :=
      hmore.stops 2 indent hstop (Nat.lt_add_of_pos_right Nat.two_pos)
    have hnested := ihChild hchild (hafter.mono (Nat.le_add_right _ 2))
      (parses_stop hafter (Block.addEntries {} (child.readBack spell)))
    have hindent : indentOf (pad indent ++ (key.toList ++ [':'])) = indent := hcontent.indent
    rw [Mapping.lines, List.append_assoc]
    refine parses_opener hcontent.not_blank (breaksAt_own _ _ hindent)
      (hcontent.strip.symm ▸ lineOf_opener hkey) (by rw [hindent]; exact hnested) ?_
    refine ih hmore hstop ?_
    rw [hchild.value]
    exact hrest

end StepTwo

/-! ## The printed text -/

section Text

open Mapping (itemText pad)

variable {spell : String → Text}

theorem unbroken_append {front back : Text} (hfront : Unbroken front) (hback : Unbroken back) :
    Unbroken (front ++ back) := by
  intro c hc
  rcases List.mem_append.mp hc with hc | hc
  · exact hfront c hc
  · exact hback c hc

theorem unbroken_pad (n : Nat) : Unbroken (pad n) := by
  intro c hc
  rw [List.eq_of_mem_replicate hc]
  rfl

theorem unbroken_of_all
    (h : (text.all fun c => !KeyholeRepoName.isLineBreak c) = true) : Unbroken text :=
  fun c hc => Bool.not_eq_true' _ ▸ List.all_eq_true.mp h c hc

theorem PlainKey.opener_unbroken (h : PlainKey key) (n : Nat) :
    Unbroken (pad n ++ (key ++ [':'])) :=
  unbroken_append (unbroken_pad n) (unbroken_append h.unbroken (unbroken_of_all rfl))

theorem Mapping.Printable.unbroken (h : m.Printable spell) (step indent : Nat) :
    ∀ raw ∈ m.lines spell step indent, Unbroken raw := by
  induction m generalizing indent with
  | nil => exact nofun
  | leaf key value more ih =>
    obtain ⟨hkey, hvalue, -, hmore⟩ := h
    intro raw hraw
    rcases List.mem_cons.mp hraw with rfl | hraw
    · refine unbroken_append (unbroken_pad indent) (unbroken_append hkey.unbroken ?_)
      exact unbroken_append (@unbroken_of_all [':', ' '] rfl) hvalue.unbroken
    · exact ih hmore indent raw hraw
  | list key first items more ih =>
    obtain ⟨hkey, hitems, -, hmore⟩ := h
    intro raw hraw
    rcases List.mem_append.mp hraw with hraw | hraw
    · rcases List.mem_cons.mp hraw with rfl | hraw
      · exact hkey.opener_unbroken indent
      · obtain ⟨item, hitem, rfl⟩ := List.mem_map.mp hraw
        refine unbroken_append (unbroken_pad _) ?_
        exact unbroken_append (@unbroken_of_all ['-', ' '] rfl) (hitems item hitem).unbroken
    · exact ih hmore indent raw hraw
  | nested key child more ihChild ih =>
    obtain ⟨hkey, -, hchild, -, hmore⟩ := h
    intro raw hraw
    rcases List.mem_append.mp hraw with hraw | hraw
    · rcases List.mem_cons.mp hraw with rfl | hraw
      · exact hkey.opener_unbroken indent
      · exact ihChild hchild (indent + step) raw hraw
    · exact ih hmore indent raw hraw

theorem splitLines_joined {lines : List Text} (h : ∀ line ∈ lines, Unbroken line) :
    splitLines (lines.flatMap (· ++ ['\n'])) = lines := by
  induction lines with
  | nil => rfl
  | cons line lines ih =>
    have hline : Unbroken line := h line List.mem_cons_self
    have hmore : ∀ other ∈ lines, Unbroken other := fun other hother =>
      h other (List.mem_cons_of_mem line hother)
    rw [List.flatMap_cons, List.append_assoc, List.singleton_append, splitLines_line hline,
      ih hmore]

theorem splitLines_print (h : m.Printable spell) (step : Nat) :
    splitLines (m.print spell step).toList = m.lines spell step 0 := by
  rw [Mapping.print, String.toList_ofList]
  exact splitLines_joined (h.unbroken step 0)

/-- At a step of two the printed text is read entry by entry. -/
theorem loadYamlSubset_print_two (h : m.Printable spell) :
    loadYamlSubset (m.print spell 2) = some (m.readBack spell) := by
  by_cases hnil : m = .nil
  · rw [hnil]
    rfl
  · have hparses : Parses (m.lines spell 2 0 ++ []) 0 {} (.obj (m.readBack spell), []) := by
      refine parses_lines h (stops_nil _) ?_
      rw [← h.value]
      exact parses_nil
    rw [List.append_nil, ← splitLines_print h] at hparses
    refine loadYamlSubset_of_parses ?_ hparses
    rw [splitLines_print h]
    cases hlines : m.lines spell 2 0 with
    | nil =>
      cases m with
      | nil => exact absurd rfl hnil
      | leaf _ _ _ => exact nomatch hlines
      | list _ _ _ _ => exact nomatch hlines
      | nested _ _ _ => exact nomatch hlines
    | cons raw more =>
      refine ⟨raw, List.mem_cons_self, fun hempty => ?_⟩
      have hfull := (h.head 2 0 raw (by rw [hlines]; rfl)).1
      rw [isBlank, hempty] at hfull
      exact nomatch hfull

/-! ## Strings read back -/

theorem reservedWords_no_text {word : Json}
    (h : reservedWords.lookup text = some word) (value : String) : word ≠ .str value := by
  rintro rfl
  have hmem : (text, Json.str value) ∈ reservedWords := mem_of_lookup h
  simp [reservedWords] at hmem

/-- A scalar is read as a string where it is spelled as that string. -/
theorem yamlScalar_eq_str_iff (h : Trimmed text) (value : String) :
    yamlScalar text = .str value ↔ SpelledAs text value := by
  have hsame (chars : Text) :
      Json.str (String.ofList chars) = .str value ↔ chars = value.toList := by
    rw [Json.str.injEq, ← String.toList_inj, String.toList_ofList]
  rw [yamlScalar, SpelledAs, stripText_of_trimmed h]
  cases hword : reservedWords.lookup text with
  | some word =>
    constructor
    · exact fun heq => absurd heq (reservedWords_no_text hword value)
    · exact fun hspelled => nomatch hspelled.1
  | none =>
    by_cases hquoted : isQuoted text = true
    · simp only [if_pos hquoted, hsame, true_and]
    · simp only [if_neg hquoted, true_and]
      by_cases hzero : leadingZero text = true
      · simp only [if_pos hzero]
        cases hfloat : floatLiteral text with
        | true => simp
        | false => simp [hsame, hzero]
      · simp only [if_neg hzero]
        cases hint : intLiteral text with
        | some n => simp [hzero]
        | none =>
          cases hfloat : floatLiteral text with
          | true => simp
          | false => simp [hsame]

theorem itemValue_eq_str_iff (h : Trimmed text) (value : String) :
    itemValue text = .str value ↔ ':' ∉ text ∧ SpelledAs text value := by
  rw [itemValue]
  by_cases hcolon : ':' ∈ text
  · rw [if_pos hcolon]
    exact ⟨nofun, fun hspelled => absurd hcolon hspelled.1⟩
  · rw [if_neg hcolon, yamlScalar_eq_str_iff h]
    exact ⟨fun hspelled => ⟨hcolon, hspelled⟩, fun hspelled => hspelled.2⟩

/-- What is read entry by entry is the tree where every string is read as itself. -/
theorem readBack_eq_iff (h : m.Printable spell) :
    m.readBack spell = m.toDict ↔ m.ReadsBack spell := by
  induction m with
  | nil => exact ⟨fun _ => trivial, fun _ => rfl⟩
  | leaf key value more ih =>
    obtain ⟨-, hvalue, -, hmore⟩ := h
    rw [Mapping.readBack, Mapping.toDict, List.cons.injEq, Prod.mk.injEq, ih hmore,
      yamlScalar_eq_str_iff hvalue.trimmed]
    exact ⟨fun heq => ⟨heq.1.2, heq.2⟩, fun hreads => ⟨⟨rfl, hreads.1⟩, hreads.2⟩⟩
  | list key first items more ih =>
    obtain ⟨-, hitems, -, hmore⟩ := h
    rw [Mapping.readBack, Mapping.toDict, List.cons.injEq, Prod.mk.injEq, ih hmore, Json.arr.injEq,
      List.map_inj_left]
    constructor
    · rintro ⟨⟨-, heq⟩, hrest⟩
      refine ⟨fun item hitem => ?_, hrest⟩
      exact (itemValue_eq_str_iff (hitems item hitem).trimmed item).mp (heq item hitem)
    · rintro ⟨hspelled, hrest⟩
      refine ⟨⟨rfl, fun item hitem => ?_⟩, hrest⟩
      exact (itemValue_eq_str_iff (hitems item hitem).trimmed item).mpr (hspelled item hitem)
  | nested key child more ihChild ih =>
    obtain ⟨-, -, hchild, -, hmore⟩ := h
    rw [Mapping.readBack, Mapping.toDict, List.cons.injEq, Prod.mk.injEq, ih hmore, Json.obj.injEq,
      ihChild hchild]
    exact ⟨fun heq => ⟨heq.1.2, heq.2⟩, fun hreads => ⟨⟨rfl, hreads.1⟩, hreads.2⟩⟩

end Text

/-! ## Any other step -/

/-- A value without anything in it. -/
def Shallow : Json → Prop
  | .arr _ => False
  | .obj (_ :: _) => False
  | _ => True

/-- Every value of the dictionary is one. -/
def AllShallow (d : Dict) : Prop := ∀ entry ∈ d, Shallow entry.2

/-- The line is a key with nothing behind it. -/
def Opens (raw : Text) : Prop := ∃ key, lineOf (stripText raw) = .opener key

/-- The line after such a key is not at the columns the nested loop expects. -/
def Apart (raw next : Text) : Prop :=
  Opens raw → isBlank next = false ∧ indentOf next ≠ indentOf raw + 2

theorem AllShallow.set (h : AllShallow d) {v : Json} (hv : Shallow v) (key : String) :
    AllShallow (d.set key v) := by
  induction d with
  | nil =>
    intro entry hentry
    rw [List.mem_singleton.mp hentry]
    exact hv
  | cons kv d ih =>
    have hmore : AllShallow d := fun entry hentry => h entry (List.mem_cons_of_mem kv hentry)
    intro entry hentry
    rw [Dict.set] at hentry
    split at hentry
    · rcases List.mem_cons.mp hentry with rfl | hentry
      · exact hv
      · exact hmore entry hentry
    · rcases List.mem_cons.mp hentry with rfl | hentry
      · exact h _ List.mem_cons_self
      · exact ih hmore entry hentry

theorem yamlScalar_shallow (text : Text) : Shallow (yamlScalar text) := by
  have hwords : ∀ pair ∈ reservedWords, Shallow pair.2 := by
    intro pair hpair
    simp only [reservedWords, List.mem_cons, List.not_mem_nil, or_false] at hpair
    rcases hpair with rfl | rfl | rfl | rfl | rfl | rfl | rfl | rfl | rfl <;> trivial
  rw [yamlScalar]
  cases hword : reservedWords.lookup (stripText text) with
  | some word => exact hwords (stripText text, word) (mem_of_lookup hword)
  | none =>
    simp only
    split
    · trivial
    · split
      · trivial
      · split
        · trivial
        · trivial

/-- The loop nested below a key returns at once, with an empty dictionary. -/
theorem nested_leaves {raw : Text} (hopens : Opens raw)
    (hchain : (raw :: rest).IsChain Apart) {fuel : Nat}
    (h : parseBlock fuel rest (indentOf raw + 2) {} = some found) : found.1 = .obj [] := by
  cases fuel with
  | zero => exact nomatch h
  | succ fuel =>
    cases rest with
    | nil =>
      rw [parseBlock] at h
      rw [← Option.some.inj h]
      rfl
    | cons next rest =>
      obtain ⟨hfull, hapart⟩ := (List.isChain_cons_cons.mp hchain).1 hopens
      have hbreak : breaksAt (indentOf raw + 2) Mode.none next = true := by
        rcases Nat.lt_or_gt_of_ne hapart with hless | hmore
        · exact breaksAt_above hless
        · rw [breaksAt, decide_eq_true hmore]
          exact Bool.or_true _
      rw [parseBlock, if_neg (Bool.eq_false_iff.mp hfull), if_pos hbreak] at h
      rw [← Option.some.inj h]
      rfl

/-- Where every nested loop leaves at once, nothing nested gets into the result. -/
theorem hoisted_flat {fuel : Nat} {lines : List Text} {indent : Nat}
    (h : parseBlock fuel lines indent s = some found)
    (hchain : lines.IsChain Apart) (hresult : AllShallow s.result) :
    AllShallow (blockDict found.1) := by
  have hvalue : ∀ s : Block, AllShallow s.result → AllShallow (blockDict s.value) := by
    intro s hs
    rw [Block.value]
    split
    · exact List.forall_mem_nil _
    · exact hs
  induction fuel generalizing lines indent s found with
  | zero => cases h
  | succ fuel ih =>
    cases lines with
    | nil =>
      rw [parseBlock] at h
      rw [← Option.some.inj h]
      exact hvalue s hresult
    | cons raw rest =>
      have hrest : rest.IsChain Apart := hchain.tail
      rw [parseBlock] at h
      split at h
      · exact ih h hrest hresult
      · split at h
        · rw [← Option.some.inj h]
          exact hvalue s hresult
        · split at h
          · exact ih h hrest hresult
          · exact ih h hrest hresult
          · exact ih h hrest (hresult.set (yamlScalar_shallow _) _)
          · have hfolded : ∀ parts, Shallow (foldedValue parts) := fun _ => trivial
            exact ih h (hrest.suffix (foldedLines_suffix _ rest)) (hresult.set (hfolded _) _)
          · rename_i key hline
            split at h
            · rename_i nested left hnested
              have hempty : nested = .obj [] := nested_leaves ⟨key, hline⟩ hchain hnested
              refine ih h (hrest.suffix (parseBlock_suffix hnested)) (hresult.set ?_ _)
              rw [hempty]
              trivial
            · cases h
          -- an item leaves the result as it is, whatever is nested below it
          all_goals
            split at h
            · rename_i nested left hnested
              exact ih h (hrest.suffix (parseBlock_suffix hnested)) hresult
            · cases h

section OtherSteps

open Mapping (itemText pad)

variable {spell : String → Text}

theorem not_opens_entry (hkey : PlainKey key) (ht : OneLine text) :
    ¬ Opens (pad n ++ (key ++ ':' :: ' ' :: text)) := by
  rintro ⟨key', hline⟩
  rw [(hkey.entry ht).strip, lineOf_entry hkey ht] at hline
  exact nomatch hline

theorem not_opens_item (ht : OneLine text) :
    ¬ Opens (itemText n text) := by
  rintro ⟨key', hline⟩
  rw [itemText, ht.item.strip, lineOf_item ht] at hline
  split at hline
  · exact nomatch hline
  · exact nomatch hline

theorem apart_items {items : List String} (h : ∀ item ∈ items, OneLine (spell item))
    (hrest : rest.IsChain Apart) :
    ((items.map fun item => itemText n (spell item)) ++ rest).IsChain Apart := by
  induction items with
  | nil => exact hrest
  | cons item items ih =>
    have hmore := ih fun other hother => h other (List.mem_cons_of_mem item hother)
    refine List.IsChain.cons hmore fun next _ hopens => ?_
    exact absurd hopens (not_opens_item (h item List.mem_cons_self))

/-- At another step than two no line is where the nested loop before it expects it. -/
theorem apart_lines (h : m.Printable spell) {step : Nat} (hstep : step ≠ 2)
    (indent : Nat) (hrest : rest.IsChain Apart) :
    (m.lines spell step indent ++ rest).IsChain Apart := by
  have hcolumns : ∀ {n : Nat}, n + step ≠ n + 2 := fun heq => hstep (Nat.add_left_cancel heq)
  induction m generalizing indent rest with
  | nil => exact hrest
  | leaf key value more ih =>
    obtain ⟨hkey, hvalue, -, hmore⟩ := h
    refine List.IsChain.cons (ih hmore indent hrest) fun next _ hopens => ?_
    exact absurd hopens (not_opens_entry hkey hvalue)
  | list key first items more ih =>
    obtain ⟨hkey, hitems, -, hmore⟩ := h
    have hindent : indentOf (pad indent ++ (key.toList ++ [':'])) = indent := hkey.opener.indent
    rw [Mapping.lines, List.append_assoc]
    refine List.IsChain.cons (apart_items hitems (ih hmore indent hrest)) fun next hnext _ => ?_
    have hfirst : OneLine (spell first) := hitems first List.mem_cons_self
    rw [← Option.some.inj hnext, hindent]
    exact ⟨hfirst.item.not_blank, fun heq => hcolumns (hfirst.item.indent.symm.trans heq)⟩
  | nested key child more ihChild ih =>
    obtain ⟨hkey, hfull, hchild, -, hmore⟩ := h
    have hindent : indentOf (pad indent ++ (key.toList ++ [':'])) = indent := hkey.opener.indent
    rw [Mapping.lines, List.append_assoc]
    refine List.IsChain.cons (ihChild hchild (indent + step) (ih hmore indent hrest))
      fun next hnext _ => ?_
    have hhead : next ∈ (child.lines spell step (indent + step)).head? := by
      cases child with
      | nil => exact absurd rfl hfull
      | leaf _ _ _ => exact hnext
      | list _ _ _ _ => exact hnext
      | nested _ _ _ => exact hnext
    obtain ⟨hnot, hnext⟩ := hchild.head step (indent + step) next hhead
    rw [hindent, hnext]
    exact ⟨hnot, hcolumns⟩

theorem shallow_of_load (h : m.Printable spell) {step : Nat} (hstep : step ≠ 2)
    (hload : loadYamlSubset (m.print spell step) = some d) : AllShallow d := by
  have hchain : (m.lines spell step 0).IsChain Apart := by
    have hlines := apart_lines h hstep 0 List.isChain_nil
    rw [List.append_nil] at hlines
    exact hlines
  rw [loadYamlSubset, splitLines_print h] at hload
  split at hload
  · rw [← Option.some.inj hload]
    exact List.forall_mem_nil _
  · obtain ⟨found, hfound, rfl⟩ := Option.map_eq_some_iff.mp hload
    exact hoisted_flat hfound hchain (List.forall_mem_nil _)

theorem flat_of_shallow (h : m.Printable spell) (hshallow : AllShallow m.toDict) :
    m.Flat := by
  induction m with
  | nil => trivial
  | leaf key value more ih =>
    exact ih h.2.2.2 fun entry hentry => hshallow entry (List.mem_cons_of_mem _ hentry)
  | list key first items more ih => exact (hshallow _ List.mem_cons_self).elim
  | nested key child more ihChild ih =>
    have hchild : Shallow (.obj child.toDict) := hshallow _ List.mem_cons_self
    cases child with
    | nil => exact absurd rfl h.2.1
    | leaf _ _ _ => exact hchild.elim
    | list _ _ _ _ => exact hchild.elim
    | nested _ _ _ => exact hchild.elim

theorem Mapping.Flat.lines_eq (h : m.Flat) (step indent : Nat) :
    m.lines spell step indent = m.lines spell 2 indent := by
  induction m with
  | nil => rfl
  | leaf key value more ih =>
    rw [Mapping.lines, Mapping.lines, ih h]
  | list key first items more ih => exact h.elim
  | nested key child more ihChild ih => exact h.elim

end OtherSteps

/-- A printed tree is read back exactly when it is printed with two columns for a level, or has
    nothing nested, and every string of it is read as itself. -/
theorem loadYamlSubset_print_iff (spell : String → Text) (step : Nat) {m : Mapping}
    (h : m.Printable spell) :
    loadYamlSubset (m.print spell step) = some m.toDict ↔
      (step = 2 ∨ m.Flat) ∧ m.ReadsBack spell := by
  have htwo : loadYamlSubset (m.print spell 2) = some m.toDict ↔ m.ReadsBack spell := by
    rw [loadYamlSubset_print_two h, Option.some.injEq]
    exact readBack_eq_iff h
  have hflat : m.Flat → m.print spell step = m.print spell 2 := by
    intro hm
    rw [Mapping.print, Mapping.print, hm.lines_eq step 0]
  constructor
  · intro hload
    by_cases hstep : step = 2
    · rw [hstep] at hload
      exact ⟨.inl hstep, htwo.mp hload⟩
    · have hm : m.Flat := flat_of_shallow h (shallow_of_load h hstep hload)
      rw [hflat hm] at hload
      exact ⟨.inr hm, htwo.mp hload⟩
  · rintro ⟨hstep | hm, hreads⟩
    · rw [hstep]
      exact htwo.mpr hreads
    · rw [hflat hm]
      exact htwo.mpr hreads

/-- A mapping below a key. -/
def smallTree : Mapping := .nested "a" (.leaf "b" "x" .nil) .nil

theorem trimmed_singleton {c : Char} (h : isSpace c = false) : Trimmed [c] := by
  constructor
  · intro d hd
    rw [← Option.some.inj hd]
    exact h
  · intro d hd
    rw [← Option.some.inj hd]
    exact h

theorem smallTree_printable : smallTree.Printable String.toList := by
  have hkeyA : PlainKey "a".toList :=
    ⟨by decide, by decide, trimmed_singleton (by decide), by decide, by decide, by decide⟩
  have hkeyB : PlainKey "b".toList :=
    ⟨by decide, by decide, trimmed_singleton (by decide), by decide, by decide, by decide⟩
  have hvalue : OneLine "x".toList :=
    ⟨by decide, by decide, trimmed_singleton (by decide), by decide, by decide⟩
  exact ⟨hkeyA, by decide, ⟨hkeyB, hvalue, by decide, trivial⟩, by decide, trivial⟩

/-- With two columns for a level it is read back. -/
theorem smallTree_read :
    loadYamlSubset (smallTree.print String.toList 2) = some smallTree.toDict := by
  refine (loadYamlSubset_print_iff String.toList 2 smallTree_printable).mpr ⟨.inl rfl, ?_⟩
  exact ⟨⟨⟨by decide, by decide, by decide, rfl⟩, trivial⟩, trivial⟩

/-- With four its entry becomes one of the mapping around it. -/
theorem smallTree_hoisted : smallTree.Printable String.toList ∧
    loadYamlSubset (smallTree.print String.toList 4)
      = some [("a", .obj []), ("b", .str "x")] ∧
    ¬ loadYamlSubset (smallTree.print String.toList 4) = some smallTree.toDict := by
  have hread : loadYamlSubset (smallTree.print String.toList 4)
      = some [("a", .obj []), ("b", .str "x")] := rfl
  refine ⟨smallTree_printable, hread, fun h => ?_⟩
  rw [hread] at h
  exact nomatch (List.cons.inj (Option.some.inj h)).2

end KeyholeSubset
