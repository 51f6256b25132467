import Keyhole.JsonLiterals
import Keyhole.LastWrite
import Mathlib.Data.List.Sort

/-!
# The canonical text of a document

`json.dumps` with sorted keys writes two documents alike exactly where they are the same up to the
order of keys.

* `sortKeys`: a document with its keys in order, at every level;
* `WellFormed`: a document as Python has it, keys once in an object and floats as it prints them;
* `dumps_agree_iff`: equal texts are the same document. -/

namespace KeyholeJson

open SeparatedText

/-! ## Documents -/

/-- The order of the entries of an object. -/
def keyLe {α : Type} (a b : String × α) : Bool := decide (a.1 ≤ b.1)

mutual

/-- A document with its keys in order. -/
def sortKeys : Json → Json
  | .null => .null
  | .bool b => .bool b
  | .int n => .int n
  | .float text => .float text
  | .str s => .str s
  | .arr items => .arr (sortKeysItems items)
  | .obj fields => .obj ((sortKeysFields fields).mergeSort keyLe)

/-- The elements of a list. -/
def sortKeysItems : List Json → List Json
  | [] => []
  | v :: rest => sortKeys v :: sortKeysItems rest

/-- The entries of an object. -/
def sortKeysFields : List (String × Json) → List (String × Json)
  | [] => []
  | (k, v) :: rest => (k, sortKeys v) :: sortKeysFields rest

end

/-- A character of a finite float. -/
def floatChar (c : Char) : Bool := c.isDigit || ['-', '+', '.', 'e'].contains c

/-- What Python prints for a float: a finite one has a point or an exponent. -/
def FloatText (text : String) : Prop :=
  text = "inf" ∨ text = "-inf" ∨ text = "nan" ∨
    ((∀ c ∈ text.toList, floatChar c = true) ∧ ∃ c ∈ text.toList, c = '.' ∨ c = 'e')

mutual

/-- A document as Python has it. -/
def WellFormed : Json → Prop
  | .null => True
  | .bool _ => True
  | .int _ => True
  | .float text => FloatText text
  | .str _ => True
  | .arr items => WellFormedItems items
  | .obj fields => (fields.map Prod.fst).Nodup ∧ WellFormedFields fields

/-- The elements of a list. -/
def WellFormedItems : List Json → Prop
  | [] => True
  | v :: rest => WellFormed v ∧ WellFormedItems rest

/-- The values of an object. -/
def WellFormedFields : List (String × Json) → Prop
  | [] => True
  | (_, v) :: rest => WellFormed v ∧ WellFormedFields rest

end

theorem sortKeysItems_eq (items : List Json) : sortKeysItems items = items.map sortKeys := by
  induction items with
  | nil => rfl
  | cons v rest ih => rw [sortKeysItems, ih, List.map_cons]

theorem sortKeysFields_eq (fields : List (String × Json)) :
    sortKeysFields fields = fields.map fun kv => (kv.1, sortKeys kv.2) := by
  induction fields with
  | nil => rfl
  | cons kv rest ih => rw [sortKeysFields, ih, List.map_cons]

theorem wellFormedItems_iff (items : List Json) :
    WellFormedItems items ↔ ∀ v ∈ items, WellFormed v := by
  induction items with
  | nil => simp [WellFormedItems]
  | cons v rest ih => rw [WellFormedItems, ih, List.forall_mem_cons]

theorem wellFormedFields_iff (fields : List (String × Json)) :
    WellFormedFields fields ↔ ∀ kv ∈ fields, WellFormed kv.2 := by
  induction fields with
  | nil => simp [WellFormedFields]
  | cons kv rest ih => rw [WellFormedFields, ih, List.forall_mem_cons]

/-! ## The text -/

/-- The characters of a document. -/
def canonicalText (v : Json) : List Char := (dumps compactSeparators v).toList

/-- The characters of an entry. -/
def entryText (kv : String × Json) : List Char := literal kv.1 ++ ':' :: canonicalText kv.2

theorem toList_join (texts : List String) :
    (join "," texts).toList = separated ',' String.toList texts := by
  induction texts with
  | nil => rfl
  | cons s rest ih =>
    cases rest with
    | nil => rfl
    | cons t rest =>
      show (s ++ "," ++ join "," (t :: rest)).toList = _
      rw [String.toList_append, String.toList_append, ih, List.append_assoc]
      rfl

variable {v w : Json} {α : Type} {c : Char}

theorem separated_map {β : Type} (sep : Char) (text : β → List Char) (f : α → β) (xs : List α) :
    separated sep text (xs.map f) = separated sep (fun x => text (f x)) xs := by
  induction xs with
  | nil => rfl
  | cons x rest ih =>
    cases rest with
    | nil => rfl
    | cons y rest =>
      rw [List.map_cons] at ih
      rw [List.map_cons, List.map_cons, separated, separated, ih]

theorem dumpItems_eq (sep : Separators) (items : List Json) :
    dumpItems sep items = items.map (dumps sep) := by
  induction items with
  | nil => rfl
  | cons v rest ih => rw [dumpItems, ih, List.map_cons]

theorem dumpFields_eq (sep : Separators) (fields : List (String × Json)) :
    dumpFields sep fields = fields.map fun kv => (kv.1, dumps sep kv.2) := by
  induction fields with
  | nil => rfl
  | cons kv rest ih => rw [dumpFields, ih, List.map_cons]

/-- Sorting by key does not look at the values. -/
theorem sort_map {β : Type} (f : α → β) (fields : List (String × α)) :
    (fields.map fun kv => (kv.1, f kv.2)).mergeSort keyLe =
      (fields.mergeSort keyLe).map fun kv => (kv.1, f kv.2) := by
  refine (List.map_mergeSort ?_).symm
  intro a _ b _
  rfl

theorem canonicalText_arr (items : List Json) :
    canonicalText (.arr items) = '[' :: separated ',' canonicalText items ++ [']'] := by
  have hopen : "[".toList = ['['] := rfl
  have hclose : "]".toList = [']'] := rfl
  rw [canonicalText, dumps, String.toList_append, String.toList_append, hopen, hclose,
    dumpItems_eq, compactSeparators, toList_join, separated_map]
  rfl

theorem canonicalText_obj (fields : List (String × Json)) :
    canonicalText (.obj fields) =
      '\x7b' :: separated ',' entryText (fields.mergeSort keyLe) ++ ['\x7d'] := by
  have hopen : "\x7b".toList = ['\x7b'] := rfl
  have hclose : "\x7d".toList = ['\x7d'] := rfl
  have hentry : (fun kv : String × Json =>
      (dumpStr kv.1 ++ compactSeparators.key ++ dumps compactSeparators kv.2).toList) =
      entryText := by
    funext kv
    rw [String.toList_append, String.toList_append, toList_dumpStr, entryText, canonicalText,
      List.append_assoc]
    rfl
  have hsort := sort_map (dumps compactSeparators) fields
  rw [canonicalText, dumps, String.toList_append, String.toList_append, hopen, hclose,
    dumpFields_eq]
  show ['\x7b'] ++ (join "," (List.map _ (List.mergeSort _ keyLe))).toList ++ ['\x7d'] = _
  rw [hsort, List.map_map, toList_join, separated_map, ← hentry]
  rfl

/-! ## Words -/

/-- A sign that ends a word. -/
def Stop (c : Char) : Prop := c = ',' ∨ c = ']' ∨ c = '\x7d'

/-- A document that is written as one word. -/
def IsWord : Json → Prop
  | .null => True
  | .bool _ => True
  | .int _ => True
  | .float _ => True
  | .str _ => False
  | .arr _ => False
  | .obj _ => False

theorem digit_of_mem_int {n : Int} (h : c ∈ (toString n).toList) :
    c.isDigit = true ∨ c = '-' := by
  have hrepr : (toString n).toList = n.repr.toList := rfl
  have hdigits : ∀ k : Nat, c ∈ k.repr.toList → c.isDigit = true := by
    intro k hk
    rw [Nat.toList_repr] at hk
    exact Nat.isDigit_of_mem_toDigits (show 0 < 10 by decide) (show 10 ≤ 10 by decide) hk
  rw [hrepr, Int.repr_eq_if] at h
  by_cases hn : 0 ≤ n
  · rw [if_pos hn] at h
    exact .inl (hdigits _ h)
  · rw [if_neg hn, String.toList_append] at h
    rcases List.mem_append.mp h with hsign | hdigit
    · exact .inr (List.mem_singleton.mp hsign)
    · exact .inl (hdigits _ hdigit)

/-- A float is written as one of three words, or with the characters of its `repr`. -/
theorem dumpFloat_cases {text : String} (h : FloatText text) :
    (text = "inf" ∧ dumpFloat text = "Infinity") ∨
      (text = "-inf" ∧ dumpFloat text = "-Infinity") ∨
      (text = "nan" ∧ dumpFloat text = "NaN") ∨
      (dumpFloat text = text ∧ (∀ c ∈ text.toList, floatChar c = true) ∧
        ∃ c ∈ text.toList, c = '.' ∨ c = 'e') := by
  by_cases hinf : text = "inf"
  · exact .inl ⟨hinf, by rw [dumpFloat, if_pos hinf]⟩
  by_cases hneg : text = "-inf"
  · exact .inr (.inl ⟨hneg, by rw [dumpFloat, if_neg hinf, if_pos hneg]⟩)
  by_cases hnan : text = "nan"
  · exact .inr (.inr (.inl ⟨hnan, by rw [dumpFloat, if_neg hinf, if_neg hneg, if_pos hnan]⟩))
  · rcases h with h | h | h | h
    · exact absurd h hinf
    · exact absurd h hneg
    · exact absurd h hnan
    · refine .inr (.inr (.inr ⟨?_, h⟩))
      rw [dumpFloat, if_neg hinf, if_neg hneg, if_neg hnan]

/-- The words that are no numbers. -/
def namedWords : List (List Char × Json) :=
  [(['n', 'u', 'l', 'l'], .null), (['t', 'r', 'u', 'e'], .bool true),
    (['f', 'a', 'l', 's', 'e'], .bool false),
    (['I', 'n', 'f', 'i', 'n', 'i', 't', 'y'], .float "inf"),
    (['-', 'I', 'n', 'f', 'i', 'n', 'i', 't', 'y'], .float "-inf"),
    (['N', 'a', 'N'], .float "nan")]

/-- What a word stands for; an integer is told apart by its digits. -/
def readWord (word : List Char) : Option Json :=
  match namedWords.lookup word with
  | some v => some v
  | none =>
      if word.any (fun c => c == '.' || c == 'e') then some (.float (String.ofList word)) else none

theorem named_ne_number : ∀ entry ∈ namedWords, ∃ c ∈ entry.1, floatChar c = false := by
  have hall : (namedWords.all fun entry => entry.1.any fun c => !floatChar c) = true := rfl
  intro entry hentry
  obtain ⟨c, hc, hother⟩ := List.any_eq_true.mp (List.all_eq_true.mp hall entry hentry)
  exact ⟨c, hc, Eq.mp (Bool.not_eq_true' _) hother⟩

theorem readWord_number {word : List Char} (h : ∀ c ∈ word, floatChar c = true) :
    readWord word = if word.any (fun c => c == '.' || c == 'e') then
      some (.float (String.ofList word)) else none := by
  have hnone : namedWords.lookup word = none := by
    rw [List.lookup_eq_none_iff]
    intro entry hentry
    obtain ⟨c, hc, hother⟩ := named_ne_number entry hentry
    rw [bne_iff_ne]
    rintro rfl
    exact nomatch hother.symm.trans (h c hc)
  rw [readWord, hnone]

theorem floatChar_of_int (h : c.isDigit = true ∨ c = '-') : floatChar c = true := by
  rcases h with h | rfl
  · rw [floatChar, h, Bool.true_or]
  · rfl

theorem readWord_int (n : Int) : readWord (canonicalText (.int n)) = none := by
  have hchars : ∀ c ∈ canonicalText (.int n), c.isDigit = true ∨ c = '-' := by
    intro c hc
    rw [canonicalText, dumps] at hc
    exact digit_of_mem_int hc
  have hplain : (canonicalText (.int n)).any (fun c => c == '.' || c == 'e') = false := by
    rw [List.any_eq_false]
    intro c hc hmark
    rcases Bool.or_eq_true_iff.mp hmark with hdot | hexp
    · obtain rfl := beq_iff_eq.mp hdot
      rcases hchars _ hc with h | h <;> exact absurd h (by decide)
    · obtain rfl := beq_iff_eq.mp hexp
      rcases hchars _ hc with h | h <;> exact absurd h (by decide)
  rw [readWord_number fun c hc => floatChar_of_int (hchars c hc), hplain]
  rfl

theorem readWord_float {text : String} (h : FloatText text) :
    readWord (canonicalText (.float text)) = some (.float text) := by
  rw [canonicalText, dumps]
  rcases dumpFloat_cases h with ⟨rfl, hword⟩ | ⟨rfl, hword⟩ | ⟨rfl, hword⟩ | ⟨hword, hchars, hmark⟩
  · rw [hword]
    rfl
  · rw [hword]
    rfl
  · rw [hword]
    rfl
  · obtain ⟨c, hc, hpoint⟩ := hmark
    have hany : text.toList.any (fun c => c == '.' || c == 'e') = true := by
      rw [List.any_eq_true]
      refine ⟨c, hc, ?_⟩
      rcases hpoint with rfl | rfl <;> rfl
    rw [hword, readWord_number hchars, if_pos hany, String.ofList_toList]

/-- A word other than an integer is read back. -/
theorem readWord_text (hword : IsWord v) (hv : WellFormed v) :
    readWord (canonicalText v) = some v ∨ ∃ n, v = .int n := by
  cases v with
  | null => exact .inl rfl
  | bool b => cases b <;> exact .inl rfl
  | int n => exact .inr ⟨n, rfl⟩
  | float text => exact .inl (readWord_float hv)
  | str s => exact hword.elim
  | arr items => exact hword.elim
  | obj fields => exact hword.elim

/-- Words are told apart by their texts. -/
theorem word_inj (hv : IsWord v) (hw : IsWord w) (hwv : WellFormed v)
    (hww : WellFormed w) (h : canonicalText v = canonicalText w) : v = w := by
  rcases readWord_text hv hwv with hread | ⟨n, rfl⟩
  · rcases readWord_text hw hww with hread' | ⟨m, rfl⟩
    · rw [h, hread'] at hread
      exact (Option.some.inj hread).symm
    · rw [h, readWord_int] at hread
      exact nomatch hread
  · rcases readWord_text hw hww with hread' | ⟨m, rfl⟩
    · rw [← h, readWord_int] at hread'
      exact nomatch hread'
    · rw [int_agree h]

/-! ## Reading a text -/

/-- The signs of the grammar: what ends a word, and what opens a text that is no word. -/
def signs : List Char := [',', ']', '\x7d', '\"', '[', '\x7b']

theorem not_sign_of_floatChar (h : floatChar c = true) : c ∉ signs := by
  have hsigns : (signs.all fun c => !floatChar c) = true := rfl
  intro hc
  exact nomatch h.symm.trans (Eq.mp (Bool.not_eq_true' _) (List.all_eq_true.mp hsigns c hc))

theorem not_sign_of_all {word : List Char} (h : (word.all fun c => !signs.contains c) = true) :
    ∀ c ∈ word, c ∉ signs := by
  intro c hc hsign
  exact nomatch (List.contains_iff_mem.mpr hsign).symm.trans
    (Eq.mp (Bool.not_eq_true' _) (List.all_eq_true.mp h c hc))

theorem mem_signs_of_stop (h : Stop c) : c ∈ signs := by
  rcases h with rfl | rfl | rfl
  · exact List.mem_cons_self
  · exact List.mem_cons_of_mem _ List.mem_cons_self
  · exact List.mem_cons_of_mem _ (List.mem_cons_of_mem _ List.mem_cons_self)

/-- No sign of the grammar stands in a word. -/
theorem word_chars (hword : IsWord v) (hv : WellFormed v) :
    ∀ c ∈ canonicalText v, c ∉ signs := by
  cases v with
  | null =>
    show ∀ c ∈ ['n', 'u', 'l', 'l'], c ∉ signs
    exact not_sign_of_all rfl
  | bool b =>
    cases b
    · show ∀ c ∈ ['f', 'a', 'l', 's', 'e'], c ∉ signs
      exact not_sign_of_all rfl
    · show ∀ c ∈ ['t', 'r', 'u', 'e'], c ∉ signs
      exact not_sign_of_all rfl
  | int n =>
    intro c hc
    rw [canonicalText, dumps] at hc
    exact not_sign_of_floatChar (floatChar_of_int (digit_of_mem_int hc))
  | float text =>
    rw [canonicalText, dumps]
    rcases dumpFloat_cases hv with ⟨-, h⟩ | ⟨-, h⟩ | ⟨-, h⟩ | ⟨h, hchars, -⟩
    · rw [h]
      show ∀ c ∈ ['I', 'n', 'f', 'i', 'n', 'i', 't', 'y'], c ∉ signs
      exact not_sign_of_all rfl
    · rw [h]
      show ∀ c ∈ ['-', 'I', 'n', 'f', 'i', 'n', 'i', 't', 'y'], c ∉ signs
      exact not_sign_of_all rfl
    · rw [h]
      show ∀ c ∈ ['N', 'a', 'N'], c ∉ signs
      exact not_sign_of_all rfl
    · rw [h]
      exact fun c hc => not_sign_of_floatChar (hchars c hc)
  | str s => exact hword.elim
  | arr items => exact hword.elim
  | obj fields => exact hword.elim

theorem word_ne_nil (hword : IsWord v) (hv : WellFormed v) : canonicalText v ≠ [] := by
  intro hnil
  rcases readWord_text hword hv with hread | ⟨n, rfl⟩
  · rw [hnil] at hread
    exact nomatch hread
  · exact toString_ne_empty n (String.toList_inj.mp hnil)

/-- The sign that a document begins with, unless it is a word. -/
def opener : Json → Option Char
  | .null => none
  | .bool _ => none
  | .int _ => none
  | .float _ => none
  | .str _ => some '\"'
  | .arr _ => some '['
  | .obj _ => some '\x7b'

theorem isWord_iff (v : Json) : IsWord v ↔ opener v = none := by
  cases v <;> simp [IsWord, opener]

theorem opener_mem (h : opener v = some c) :
    c ∈ signs ∧ ∃ rest, canonicalText v = c :: rest := by
  cases v with
  | str s =>
    obtain rfl := Option.some.inj h
    refine ⟨by decide, _, toList_dumpStr s⟩
  | arr items =>
    obtain rfl := Option.some.inj h
    exact ⟨by decide, _, canonicalText_arr items⟩
  | obj fields =>
    obtain rfl := Option.some.inj h
    exact ⟨by decide, _, canonicalText_obj fields⟩
  | _ => exact nomatch h

/-- Texts that begin alike begin with the same sign, or with a word. -/
theorem opener_agree (hv : WellFormed v) (hw : WellFormed w) {rest rest' : List Char}
    (h : canonicalText v ++ rest = canonicalText w ++ rest') : opener v = opener w := by
  have hword : ∀ {v w : Json} {c : Char} {rest rest' : List Char}, WellFormed v →
      opener v = none → opener w = some c →
      canonicalText v ++ rest ≠ canonicalText w ++ rest' := by
    intro v w c rest rest' hv hnone hsome heq
    have hisWord := (isWord_iff v).mpr hnone
    obtain ⟨hsign, more, hmore⟩ := opener_mem hsome
    rw [hmore] at heq
    cases htext : canonicalText v with
    | nil => exact word_ne_nil hisWord hv htext
    | cons d text =>
      rw [htext] at heq
      obtain ⟨rfl, -⟩ := List.cons.inj heq
      refine word_chars hisWord hv d ?_ hsign
      rw [htext]
      exact List.mem_cons_self
  cases hopen : opener v with
  | none =>
    cases hopen' : opener w with
    | none => rfl
    | some c => exact absurd h (hword hv hopen hopen')
  | some c =>
    cases hopen' : opener w with
    | none => exact absurd h.symm (hword hw hopen' hopen)
    | some d =>
      obtain ⟨-, more, hmore⟩ := opener_mem hopen
      obtain ⟨-, more', hmore'⟩ := opener_mem hopen'
      rw [hmore, hmore'] at h
      rw [(List.cons.inj h).1]

/-- The document, its keys in order, can be read off the front of a text. -/
def Readable (v : Json) : Prop := Reads Stop canonicalText sortKeys WellFormed v

theorem text_ne_close {close : Char} (hclose : Stop close) (hv : WellFormed v)
    (rest rest' : List Char) : canonicalText v ++ rest ≠ close :: rest' := by
  intro h
  cases hopen : opener v with
  | none =>
    have hword := (isWord_iff v).mpr hopen
    cases htext : canonicalText v with
    | nil => exact word_ne_nil hword hv htext
    | cons d text =>
      rw [htext] at h
      obtain ⟨rfl, -⟩ := List.cons.inj h
      refine word_chars hword hv d ?_ (mem_signs_of_stop hclose)
      rw [htext]
      exact List.mem_cons_self
  | some c =>
    obtain ⟨-, more, hmore⟩ := opener_mem hopen
    rw [hmore] at h
    obtain ⟨rfl, -⟩ := List.cons.inj h
    cases v with
    | str s =>
      obtain rfl := Option.some.inj hopen
      rcases hclose with h | h | h <;> exact absurd h (by decide)
    | arr items =>
      obtain rfl := Option.some.inj hopen
      rcases hclose with h | h | h <;> exact absurd h (by decide)
    | obj fields =>
      obtain rfl := Option.some.inj hopen
      rcases hclose with h | h | h <;> exact absurd h (by decide)
    | _ => exact nomatch hopen

theorem word_readable (hword : IsWord v) (hv : WellFormed v) : Readable v := by
  intro w rest rest' hw hrest hrest' h
  have hopen := opener_agree hv hw h
  have hword' : IsWord w := (isWord_iff w).mpr (hopen ▸ (isWord_iff v).mp hword)
  obtain ⟨htext, hrests⟩ := word_agree
    (fun c hc hstop => word_chars hword hv c hc (mem_signs_of_stop hstop))
    (fun c hc hstop => word_chars hword' hw c hc (mem_signs_of_stop hstop)) hrest hrest' h
  rw [word_inj hword hword' hv hw htext]
  exact ⟨rfl, hrests⟩

theorem str_readable (s : String) : Readable (.str s) := by
  intro w rest rest' hw _ _ h
  have hopen := opener_agree (v := .str s) trivial hw h
  cases w with
  | str s' =>
    have hliteral : ∀ s, canonicalText (.str s) = literal s := toList_dumpStr
    rw [hliteral, hliteral] at h
    obtain ⟨rfl, hrest⟩ := literal_agree h
    exact ⟨rfl, hrest⟩
  | _ => exact nomatch hopen

theorem arr_readable {items : List Json} (hitems : ∀ v ∈ items, WellFormed v ∧ Readable v) :
    Readable (.arr items) := by
  intro w rest rest' hw _ _ h
  have hv : WellFormed (.arr items) :=
    (wellFormedItems_iff items).mpr fun v hv => (hitems v hv).1
  have hopen := opener_agree hv hw h
  cases w with
  | arr items' =>
    rw [canonicalText_arr, canonicalText_arr, List.cons_append, List.cons_append,
      List.append_assoc, List.append_assoc] at h
    obtain ⟨hsame, hrest⟩ := separated_agree (.inl rfl) (.inr (.inl rfl)) (by decide)
      (fun v hv => text_ne_close (.inr (.inl rfl)) hv) hitems
      ((wellFormedItems_iff items').mp hw) (List.cons.inj h).2
    rw [sortKeys, sortKeys, sortKeysItems_eq, sortKeysItems_eq, hsame]
    exact ⟨rfl, hrest⟩
  | _ => exact nomatch hopen

theorem entry_ne_close (kv : String × Json) (rest rest' : List Char) :
    entryText kv ++ rest ≠ '\x7d' :: rest' := by
  intro h
  exact absurd (List.cons.inj h).1 (by decide)

theorem entry_reads {kv : String × Json} (h : Readable kv.2) :
    Reads Stop entryText (fun kv => (kv.1, sortKeys kv.2)) (fun kv => WellFormed kv.2) kv := by
  intro kv' rest rest' hkv' hrest hrest' heq
  rw [entryText, entryText, List.append_assoc, List.append_assoc] at heq
  obtain ⟨hkey, htail⟩ := literal_agree heq
  obtain ⟨hvalue, hrests⟩ := h kv'.2 rest rest' hkv' hrest hrest' (List.cons.inj htail).2
  exact ⟨Prod.ext hkey hvalue, hrests⟩

theorem obj_readable {fields : List (String × Json)} (hkeys : (fields.map Prod.fst).Nodup)
    (hfields : ∀ kv ∈ fields, WellFormed kv.2 ∧ Readable kv.2) : Readable (.obj fields) := by
  intro w rest rest' hw _ _ h
  have hv : WellFormed (.obj fields) :=
    ⟨hkeys, (wellFormedFields_iff fields).mpr fun kv hkv => (hfields kv hkv).1⟩
  have hopen := opener_agree hv hw h
  cases w with
  | obj fields' =>
    rw [canonicalText_obj, canonicalText_obj, List.cons_append, List.cons_append,
      List.append_assoc, List.append_assoc] at h
    have hwell' := (wellFormedFields_iff fields').mp hw.2
    obtain ⟨hsame, hrest⟩ := separated_agree (.inl rfl) (.inr (.inr rfl)) (by decide)
      (fun kv _ => entry_ne_close kv)
      (fun kv hkv => ⟨(hfields kv (List.mem_mergeSort.mp hkv)).1,
        entry_reads (hfields kv (List.mem_mergeSort.mp hkv)).2⟩)
      (fun kv hkv => hwell' kv (List.mem_mergeSort.mp hkv)) (List.cons.inj h).2
    rw [sortKeys, sortKeys, sortKeysFields_eq, sortKeysFields_eq, sort_map, sort_map, hsame]
    exact ⟨rfl, hrest⟩
  | _ => exact nomatch hopen

mutual

/-- Every document can be read off its text. -/
theorem readable : ∀ v, WellFormed v → Readable v
  | .null, _ => word_readable trivial trivial
  | .bool _, _ => word_readable trivial trivial
  | .int _, _ => word_readable trivial trivial
  | .float _, h => word_readable trivial h
  | .str s, _ => str_readable s
  | .arr items, h => arr_readable (readable_items items h)
  | .obj fields, h => obj_readable h.1 (readable_fields fields h.2)

theorem readable_items : ∀ items, WellFormedItems items →
    ∀ v ∈ items, WellFormed v ∧ Readable v
  | [], _ => nofun
  | v :: rest, h => by
    intro w hw
    rcases List.mem_cons.mp hw with hsame | hrest
    · rw [hsame]
      exact ⟨h.1, readable v h.1⟩
    · exact readable_items rest h.2 w hrest

theorem readable_fields : ∀ fields, WellFormedFields fields →
    ∀ kv ∈ fields, WellFormed kv.2 ∧ Readable kv.2
  | [], _ => nofun
  | (k, v) :: rest, h => by
    intro kv hkv
    rcases List.mem_cons.mp hkv with hsame | hrest
    · rw [hsame]
      exact ⟨h.1, readable v h.1⟩
    · exact readable_fields rest h.2 kv hrest

end

/-! ## Equal texts -/

theorem keyLe_trans (a b c : String × α) (h : keyLe a b = true)
    (h' : keyLe b c = true) : keyLe a c = true :=
  decide_eq_true (String.le_trans (of_decide_eq_true h) (of_decide_eq_true h'))

theorem keyLe_total (a b : String × α) : (keyLe a b || keyLe b a) = true := by
  rw [Bool.or_eq_true_iff]
  exact (String.le_total a.1 b.1).imp decide_eq_true decide_eq_true

mutual

/-- Keys in order are written as they stand. -/
theorem dumps_sortKeys (sep : Separators) : ∀ v, dumps sep (sortKeys v) = dumps sep v
  | .null => rfl
  | .bool _ => rfl
  | .int _ => rfl
  | .float _ => rfl
  | .str _ => rfl
  | .arr items => by rw [sortKeys, dumps, dumps, dumpItems_sortKeys sep items]
  | .obj fields => by
    have hsorted : (dumpFields sep ((sortKeysFields fields).mergeSort keyLe)).mergeSort keyLe =
        (dumpFields sep fields).mergeSort keyLe := by
      rw [dumpFields_eq, sort_map, List.mergeSort_of_pairwise
        (List.pairwise_mergeSort keyLe_trans keyLe_total _), ← sort_map, ← dumpFields_eq,
        dumpFields_sortKeys sep fields]
    rw [sortKeys, dumps, dumps]
    show "\x7b" ++ join sep.item (List.map _ (List.mergeSort _ keyLe)) ++ "\x7d" = _
    rw [hsorted]
    rfl

theorem dumpItems_sortKeys (sep : Separators) : ∀ items,
    dumpItems sep (sortKeysItems items) = dumpItems sep items
  | [] => rfl
  | v :: rest => by
    rw [sortKeysItems, dumpItems, dumpItems, dumps_sortKeys sep v, dumpItems_sortKeys sep rest]

theorem dumpFields_sortKeys (sep : Separators) : ∀ fields,
    dumpFields sep (sortKeysFields fields) = dumpFields sep fields
  | [] => rfl
  | (k, v) :: rest => by
    rw [sortKeysFields, dumpFields, dumpFields, dumps_sortKeys sep v, dumpFields_sortKeys sep rest]

end

/-- Equal texts are the same document, up to the order of keys. -/
theorem dumps_agree_iff (hv : WellFormed v) (hw : WellFormed w) :
    dumps compactSeparators v = dumps compactSeparators w ↔ sortKeys v = sortKeys w := by
  constructor
  · intro h
    have hnil : Ends Stop [] := nofun
    have htext : canonicalText v ++ [] = canonicalText w ++ [] := by
      rw [canonicalText, canonicalText, h]
    exact (readable v hv w [] [] hw hnil hnil htext).1
  · intro h
    rw [← dumps_sortKeys, h, dumps_sortKeys]

/-! ## Equal objects -/

/-- Entries whose keys are distinct are in one order only. -/
theorem sort_agree_iff {fields fields' : List (String × α)} (hkeys : (fields.map Prod.fst).Nodup) :
    fields.mergeSort keyLe = fields'.mergeSort keyLe ↔ fields.Perm fields' := by
  constructor
  · intro h
    exact (List.mergeSort_perm fields keyLe).symm.trans (h ▸ List.mergeSort_perm fields' keyLe)
  · intro hperm
    refine List.Perm.eq_of_pairwise ?_ (List.pairwise_mergeSort keyLe_trans keyLe_total _)
      (List.pairwise_mergeSort keyLe_trans keyLe_total _)
      ((List.mergeSort_perm fields keyLe).trans
        (hperm.trans (List.mergeSort_perm fields' keyLe).symm))
    intro a b ha hb hab hba
    have hkey : a.1 = b.1 :=
      String.le_antisymm (of_decide_eq_true hab) (of_decide_eq_true hba)
    have hmem : b ∈ fields := hperm.mem_iff.mpr (List.mem_mergeSort.mp hb)
    exact List.inj_on_of_nodup_map hkeys (List.mem_mergeSort.mp ha) hmem hkey

theorem keys_sortKeysFields (fields : List (String × Json)) :
    (sortKeysFields fields).map Prod.fst = fields.map Prod.fst := by
  rw [sortKeysFields_eq, List.map_map]
  rfl

/-- Objects are the same document where each key has the same value in both. -/
theorem sortKeys_obj_iff {fields fields' : Dict} (hkeys : (fields.map Prod.fst).Nodup)
    (hkeys' : (fields'.map Prod.fst).Nodup) :
    sortKeys (.obj fields) = sortKeys (.obj fields') ↔
      ∀ k, (fields.lookup k).map sortKeys = (fields'.lookup k).map sortKeys := by
  have hsorted : ((sortKeysFields fields).map Prod.fst).Nodup :=
    keys_sortKeysFields fields ▸ hkeys
  have hsorted' : ((sortKeysFields fields').map Prod.fst).Nodup :=
    keys_sortKeysFields fields' ▸ hkeys'
  rw [sortKeys, sortKeys, Json.obj.injEq, sort_agree_iff hsorted]
  constructor
  · intro hperm k
    have hlookup := LastWrite.lookup_of_perm hsorted hperm k
    rw [sortKeysFields_eq, sortKeysFields_eq, LastWrite.lookup_map,
      LastWrite.lookup_map] at hlookup
    exact hlookup
  · intro hsame
    refine LastWrite.perm_of_lookup hsorted hsorted' fun k => ?_
    rw [sortKeysFields_eq, sortKeysFields_eq, LastWrite.lookup_map, LastWrite.lookup_map]
    exact hsame k

end KeyholeJson
