import Mathlib.Data.List.Basic

/-!
# JSON documents as the SDK handles them

The SDK reads and writes plain JSON values: the dictionaries, lists, strings,
numbers, booleans and `None` of Python's `json` module.  This file models those
values and the Python operations the SDK applies to them: `dict.get`,
`dict.update`, truth values, `str`, `str.lower`, `json.dumps`, and the redaction
of secrets that every persisted document passes through.

A float is kept as the text Python's `repr` prints for it; what computes with one reads
the number back from the text.  Strings are handled as lists of characters, so the
kernel can evaluate every function here on a literal. -/

namespace KeyholeJson

/-- A JSON value. -/
inductive Json where
  | null
  | bool (b : Bool)
  | int (n : Int)
  | float (text : String)
  | str (s : String)
  | arr (items : List Json)
  | obj (fields : List (String × Json))
  deriving Inhabited, Repr

/-- A JSON object: its keys in insertion order. -/
abbrev Dict := List (String × Json)

/-! ## Text -/

/-- Texts that `==` takes for equal are equal. -/
instance lawfulText : LawfulBEq (List Char) := inferInstance

/-- `str.lower` on the letters the SDK compares with: ASCII, and the Kelvin
    sign, the one other character whose lower case is an ASCII letter. -/
def lowerChar (c : Char) : Char := if c = '\u212A' then 'k' else c.toLower

/-- `str.lower`. -/
def lower (s : String) : String := String.ofList (s.toList.map lowerChar)

/-- `str.upper`, used for HTTP method names. -/
def upper (s : String) : String := String.ofList (s.toList.map Char.toUpper)

/-- `s.startswith(p)`. -/
def startsWith (s p : String) : Bool := p.toList.isPrefixOf s.toList

/-- `s.endswith(p)`. -/
def endsWith (s p : String) : Bool := p.toList.isSuffixOf s.toList

/-- Does `p` occur in the list at some position? -/
def occursIn (p : List Char) : List Char → Bool
  | [] => p.isPrefixOf []
  | c :: cs => p.isPrefixOf (c :: cs) || occursIn p cs

/-- `p in s`, for two strings. -/
def contains (s p : String) : Bool := occursIn p.toList s.toList

/-- The characters `str.strip` removes. -/
def isSpace (c : Char) : Bool :=
  [' ', '\t', '\n', '\r', '\x0b', '\x0c', '\x1c', '\x1d', '\x1e', '\x1f', '\u0085', '\u00a0',
    '\u1680', '\u2000', '\u2001', '\u2002', '\u2003', '\u2004', '\u2005', '\u2006', '\u2007',
    '\u2008', '\u2009', '\u200a', '\u2028', '\u2029', '\u202f', '\u205f', '\u3000'].contains c

/-- `str.strip()`. -/
def strip (s : String) : String :=
  String.ofList (((s.toList.dropWhile isSpace).reverse.dropWhile isSpace).reverse)

/-- `s[n:]`. -/
def dropChars (n : Nat) (s : String) : String := String.ofList (s.toList.drop n)

/-- `s[:n]`. -/
def takeChars (n : Nat) (s : String) : String := String.ofList (s.toList.take n)

/-- `sep.join(items)`. -/
def join (sep : String) : List String → String
  | [] => ""
  | [s] => s
  | s :: t :: rest => s ++ sep ++ join sep (t :: rest)

/-! ## Values -/

/-- Python's truth value. -/
def truthy : Json → Bool
  | .null => false
  | .bool b => b
  | .int n => n != 0
  | .float text => !(["", "0.0", "-0.0"].contains text)
  | .str s => s != ""
  | .arr items => !items.isEmpty
  | .obj fields => !fields.isEmpty

/-- `v is None`. -/
def isNull : Json → Bool
  | .null => true
  | _ => false

/-- `v is True`. -/
def isTrue : Json → Bool
  | .bool b => b
  | _ => false

/-- `v is False`. -/
def isFalse : Json → Bool
  | .bool b => !b
  | _ => false

/-- `v == text` for a string `text`. -/
def isStr (text : String) : Json → Bool
  | .str s => s == text
  | _ => false

/-- `isinstance(v, str)`. -/
def isText : Json → Bool
  | .str _ => true
  | _ => false

/-- `v if isinstance(v, dict) else {}`. -/
def asDict : Json → Dict
  | .obj fields => fields
  | _ => []

/-- `v if isinstance(v, list) else []`. -/
def asList : Json → List Json
  | .arr items => items
  | _ => []

/-- `a or b`. -/
def orElse (a b : Json) : Json := if truthy a then a else b

/-- The first non-empty string among the values, `""` if there is none. -/
def firstString : List Json → String
  | [] => ""
  | .str s :: rest => if s = "" then firstString rest else s
  | _ :: rest => firstString rest

/-- The first boolean among the values, `False` if there is none. -/
def firstBool : List Json → Bool
  | [] => false
  | .bool b :: _ => b
  | _ :: rest => firstBool rest

/-- The digit of a hexadecimal number. -/
def hexDigit (n : Nat) : Char :=
  if n < 10 then Char.ofNat (48 + n) else Char.ofNat (87 + n)

/-- `n` in hexadecimal, `width` digits. -/
def hexDigits : (width n : Nat) → List Char
  | 0, _ => []
  | width + 1, n => hexDigits width (n / 16) ++ [hexDigit (n % 16)]

/-- One character inside Python's `repr` of a string quoted with `quote`.
    Unprintable characters beyond ASCII are left as they are. -/
def reprChar (quote c : Char) : List Char :=
  if c = quote ∨ c = '\\' then ['\\', c]
  else if c = '\n' then ['\\', 'n']
  else if c = '\r' then ['\\', 'r']
  else if c = '\t' then ['\\', 't']
  else if c.toNat < 32 ∨ c.toNat = 127 then '\\' :: 'x' :: hexDigits 2 c.toNat
  else [c]

/-- Python's `repr` of a string. -/
def reprStr (s : String) : String :=
  let quote := if s.toList.contains '\'' && !s.toList.contains '\"' then '\"' else '\''
  String.ofList (quote :: s.toList.flatMap (reprChar quote) ++ [quote])

mutual

/-- Python's `repr` of a value. -/
def pyRepr : Json → String
  | .null => "None"
  | .bool b => if b then "True" else "False"
  | .int n => toString n
  | .float text => text
  | .str s => reprStr s
  | .arr items => "[" ++ join ", " (pyReprItems items) ++ "]"
  | .obj fields => "\x7b" ++ join ", " (pyReprFields fields) ++ "\x7d"

/-- The parts of a list's `repr`. -/
def pyReprItems : List Json → List String
  | [] => []
  | v :: rest => pyRepr v :: pyReprItems rest

/-- The parts of a dictionary's `repr`. -/
def pyReprFields : List (String × Json) → List String
  | [] => []
  | (k, v) :: rest => (reprStr k ++ ": " ++ pyRepr v) :: pyReprFields rest

end

/-- Python's `str`. -/
def pyStr : Json → String
  | .str s => s
  | v => pyRepr v

/-- `str(v or "")`. -/
def strOr (v : Json) : String := if truthy v then pyStr v else ""

/-! ## `json.dumps` with sorted keys -/

/-- `\uXXXX`, with a surrogate pair beyond the basic plane. -/
def unicodeEscape (n : Nat) : List Char :=
  if n < 65536 then '\\' :: 'u' :: hexDigits 4 n
  else
    '\\' :: 'u' :: hexDigits 4 (55296 + (n - 65536) / 1024)
      ++ '\\' :: 'u' :: hexDigits 4 (56320 + (n - 65536) % 1024)

/-- One character inside a JSON string, ASCII output. -/
def dumpChar (c : Char) : List Char :=
  if c = '\"' ∨ c = '\\' then ['\\', c]
  else if c = '\n' then ['\\', 'n']
  else if c = '\r' then ['\\', 'r']
  else if c = '\t' then ['\\', 't']
  else if c = '\x08' then ['\\', 'b']
  else if c = '\x0c' then ['\\', 'f']
  else if 32 ≤ c.toNat ∧ c.toNat ≤ 126 then [c]
  else unicodeEscape c.toNat

/-- A JSON string literal. -/
def dumpStr (s : String) : String :=
  String.ofList ('\"' :: s.toList.flatMap dumpChar ++ ['\"'])

/-- A float: its `repr`, and a word of its own where it is not finite. -/
def dumpFloat (text : String) : String :=
  if text = "inf" then "Infinity"
  else if text = "-inf" then "-Infinity"
  else if text = "nan" then "NaN"
  else text

/-- The two separators of `json.dumps`. -/
structure Separators where
  item : String
  key : String

/-- `json.dumps`' default separators. -/
def defaultSeparators : Separators := ⟨", ", ": "⟩

/-- `separators=(",", ":")`. -/
def compactSeparators : Separators := ⟨",", ":"⟩

mutual

/-- `json.dumps(v, sort_keys=True, separators=sep)`. -/
def dumps (sep : Separators) : Json → String
  | .null => "null"
  | .bool b => if b then "true" else "false"
  | .int n => toString n
  | .float text => dumpFloat text
  | .str s => dumpStr s
  | .arr items => "[" ++ join sep.item (dumpItems sep items) ++ "]"
  | .obj fields =>
      "\x7b" ++ join sep.item
        (((dumpFields sep fields).mergeSort (fun a b => decide (a.1 ≤ b.1))).map
          (fun kv => dumpStr kv.1 ++ sep.key ++ kv.2)) ++ "\x7d"

/-- The elements of a list, encoded. -/
def dumpItems (sep : Separators) : List Json → List String
  | [] => []
  | v :: rest => dumps sep v :: dumpItems sep rest

/-- The entries of a dictionary, values encoded. -/
def dumpFields (sep : Separators) : List (String × Json) → List (String × String)
  | [] => []
  | (k, v) :: rest => (k, dumps sep v) :: dumpFields sep rest

end

/-! ## Dictionaries -/

/-- What a table has for a key, it has as an entry. -/
theorem mem_of_lookup {α β : Type} [BEq α] [LawfulBEq α] {table : List (α × β)} {key : α} {v : β}
    (h : table.lookup key = some v) : (key, v) ∈ table := by
  obtain ⟨before, after, hsplit, -⟩ := List.lookup_eq_some_iff.mp h
  rw [hsplit]
  exact List.mem_append_right _ List.mem_cons_self

/-- `d.get(k)`. -/
def Dict.get (d : Dict) (k : String) : Json :=
  match d with
  | [] => .null
  | (k', v) :: rest => if k = k' then v else Dict.get rest k

/-- `d.get(k, default)`. -/
def Dict.getOr (d : Dict) (k : String) (default : Json) : Json :=
  match d with
  | [] => default
  | (k', v) :: rest => if k = k' then v else Dict.getOr rest k default

/-- `d[k] = v`. -/
def Dict.set (d : Dict) (k : String) (v : Json) : Dict :=
  match d with
  | [] => [(k, v)]
  | (k', v') :: rest => if k = k' then (k, v) :: rest else (k', v') :: Dict.set rest k v

/-- `d.pop(k, None)`. -/
def Dict.pop (d : Dict) (k : String) : Dict := d.filter (fun kv => kv.1 != k)

/-- `d.update((k, v) for k, v in updates.items() if v is not None)`. -/
def Dict.update (d updates : Dict) : Dict :=
  match updates with
  | [] => d
  | (k, v) :: rest => Dict.update (if isNull v then d else Dict.set d k v) rest

/-- `d.setdefault(k, v)`. -/
def Dict.setDefault (d : Dict) (k : String) (v : Json) : Dict :=
  if d.any (fun kv => kv.1 == k) then d else d ++ [(k, v)]

/-- `d.get(k) if isinstance(d.get(k), dict) else {}`. -/
def Dict.child (d : Dict) (k : String) : Dict := asDict (d.get k)

/-- `k in d`. -/
def Dict.has (d : Dict) (k : String) : Bool := d.any (fun kv => kv.1 == k)

@[simp] theorem get_nil (k : String) : Dict.get [] k = .null := rfl

@[simp] theorem get_cons (k k' : String) (v : Json) (d : Dict) :
    Dict.get ((k', v) :: d) k = if k = k' then v else Dict.get d k := rfl

@[simp] theorem getOr_nil (k : String) (v : Json) : Dict.getOr [] k v = v := rfl

@[simp] theorem getOr_cons (k k' : String) (v w : Json) (d : Dict) :
    Dict.getOr ((k', v) :: d) k w = if k = k' then v else Dict.getOr d k w := rfl

@[simp] theorem get_set (d : Dict) (k k' : String) (v : Json) :
    Dict.get (d.set k v) k' = if k' = k then v else d.get k' := by
  induction d with
  | nil => rfl
  | cons hd rest ih =>
    obtain ⟨k₀, v₀⟩ := hd
    simp only [Dict.set]
    by_cases h : k = k₀
    · rw [if_pos h]
      subst h
      by_cases h' : k' = k <;> simp [h']
    · rw [if_neg h, get_cons, ih, get_cons]
      by_cases h₀ : k' = k₀
      · have hk : k' ≠ k := fun hk => h (hk.symm.trans h₀)
        rw [if_pos h₀, if_pos h₀, if_neg hk]
      · rw [if_neg h₀, if_neg h₀]

theorem get_of_not_has {d : Dict} {k : String} (h : d.has k = false) : d.get k = .null := by
  induction d with
  | nil => rfl
  | cons hd rest ih =>
    obtain ⟨k', v⟩ := hd
    simp only [Dict.has, List.any_cons, Bool.or_eq_false_iff, beq_eq_false_iff_ne] at h
    rw [get_cons, if_neg (fun e => h.1 e.symm)]
    exact ih h.2

theorem getOr_of_has {d : Dict} {k : String} {v : Json} (h : d.has k = true) :
    d.getOr k v = d.get k := by
  induction d with
  | nil => exact nomatch h
  | cons hd rest ih =>
    obtain ⟨k', v'⟩ := hd
    rw [getOr_cons, get_cons]
    by_cases hk : k = k'
    · rw [if_pos hk, if_pos hk]
    · rw [if_neg hk, if_neg hk]
      simp only [Dict.has, List.any_cons, Bool.or_eq_true, beq_iff_eq] at h
      exact ih (h.resolve_left fun he => hk he.symm)

theorem getOr_of_not_has {d : Dict} {k : String} {v : Json} (h : d.has k = false) :
    d.getOr k v = v := by
  induction d with
  | nil => rfl
  | cons hd rest ih =>
    obtain ⟨k', v'⟩ := hd
    simp only [Dict.has, List.any_cons, Bool.or_eq_false_iff, beq_eq_false_iff_ne] at h
    rw [getOr_cons, if_neg fun he => h.1 he.symm]
    exact ih h.2

theorem getOr_of_get_arr {d : Dict} {k : String} {v : Json} {items : List Json}
    (h : d.get k = .arr items) : d.getOr k v = .arr items := by
  cases hhas : d.has k with
  | true => rw [getOr_of_has hhas, h]
  | false =>
    rw [get_of_not_has hhas] at h
    exact nomatch h

@[simp] theorem has_set (d : Dict) (k k' : String) (v : Json) :
    (d.set k v).has k' = (k' == k || d.has k') := by
  induction d with
  | nil => simp [Dict.set, Dict.has, Bool.beq_comm, eq_comm, beq_eq_decide]
  | cons hd rest ih =>
    obtain ⟨k₀, v₀⟩ := hd
    simp only [Dict.set]
    by_cases h : k = k₀
    · rw [if_pos h]
      subst h
      by_cases hk : k' = k
      · simp [Dict.has, hk]
      · have hk' : (k == k') = false := beq_eq_false_iff_ne.mpr (fun e => hk e.symm)
        simp [Dict.has, hk, hk']
    · rw [if_neg h]
      simp only [Dict.has, List.any_cons] at ih ⊢
      rw [ih, Bool.or_left_comm]

/-- Reading after an entry was set unless its value is `None`. -/
@[simp] theorem get_set_unless (b : Bool) (d : Dict) (k k' : String) (v : Json) :
    Dict.get (if b = true then d else d.set k v) k'
      = if k' = k then (if b = true then d.get k else v) else d.get k' := by
  by_cases hb : b = true
  · rw [if_pos hb, if_pos hb]
    by_cases hk : k' = k
    · rw [if_pos hk, hk]
    · rw [if_neg hk]
  · rw [if_neg hb, if_neg hb, get_set]

@[simp] theorem update_nil (d : Dict) : Dict.update d [] = d := rfl

@[simp] theorem update_cons (d u : Dict) (k : String) (v : Json) :
    Dict.update d ((k, v) :: u) = Dict.update (if isNull v then d else d.set k v) u := rfl

theorem get_setDefault (d : Dict) (k k' : String) (v : Json) (h : k' ≠ k) :
    Dict.get (d.setDefault k v) k' = d.get k' := by
  have happ : ∀ d : Dict, Dict.get (d ++ [(k, v)]) k' = d.get k' := by
    intro d
    induction d with
    | nil => simp [h]
    | cons hd rest ih =>
      obtain ⟨k₀, v₀⟩ := hd
      rw [List.cons_append, get_cons, get_cons, ih]
  unfold Dict.setDefault
  by_cases hd : d.any (fun kv => kv.1 == k) = true
  · rw [if_pos hd]
  · rw [if_neg hd]
    exact happ d

/-! ## Truth values and text of values -/

@[simp] theorem truthy_null : truthy .null = false := rfl

@[simp] theorem truthy_str (s : String) : truthy (.str s) = (s != "") := rfl

theorem truthy_of_ne_empty {s : String} (h : s ≠ "") : truthy (.str s) = true := bne_iff_ne.mpr h

@[simp] theorem truthy_bool (b : Bool) : truthy (.bool b) = b := rfl

@[simp] theorem isTrue_bool (b : Bool) : isTrue (.bool b) = b := rfl

@[simp] theorem isTrue_null : isTrue .null = false := rfl

@[simp] theorem isNull_null : isNull .null = true := rfl

@[simp] theorem isNull_str (s : String) : isNull (.str s) = false := rfl

@[simp] theorem isNull_bool (b : Bool) : isNull (.bool b) = false := rfl

@[simp] theorem isNull_obj (d : Dict) : isNull (.obj d) = false := rfl

@[simp] theorem pyStr_str (s : String) : pyStr (.str s) = s := rfl

@[simp] theorem asDict_obj (d : Dict) : asDict (.obj d) = d := rfl

@[simp] theorem strOr_str (s : String) : strOr (.str s) = s := by
  by_cases h : s = "" <;> simp [strOr, h]

@[simp] theorem strOr_null : strOr .null = "" := rfl

theorem firstString_cons_str {s : String} (h : s ≠ "") (rest : List Json) :
    firstString (.str s :: rest) = s := by
  rw [firstString, if_neg h]

/-- The first non-empty string is one of the values. -/
theorem firstString_mem {values : List Json} (h : firstString values ≠ "") :
    Json.str (firstString values) ∈ values := by
  induction values with
  | nil => exact absurd rfl h
  | cons v rest ih =>
    have hrest : firstString rest ≠ "" → Json.str (firstString rest) ∈ v :: rest :=
      fun h => List.mem_cons_of_mem _ (ih h)
    cases v with
    | str s =>
      by_cases hs : s = ""
      · rw [firstString, if_pos hs] at h ⊢
        exact hrest h
      · rw [firstString, if_neg hs]
        exact List.mem_cons_self
    | null => exact hrest h
    | bool b => exact hrest h
    | int n => exact hrest h
    | float t => exact hrest h
    | arr xs => exact hrest h
    | obj d => exact hrest h

/-- A non-empty string among the values is found. -/
theorem firstString_of_mem {values : List Json} {s : String} (hs : s ≠ "")
    (h : Json.str s ∈ values) : firstString values ≠ "" := by
  induction values with
  | nil => exact nomatch h
  | cons v rest ih =>
    rcases List.mem_cons.mp h with rfl | hrest
    · rw [firstString_cons_str hs]
      exact hs
    · cases v with
      | str t =>
        by_cases ht : t = ""
        · rw [firstString, if_pos ht]
          exact ih hrest
        · rw [firstString_cons_str ht]
          exact ht
      | _ => exact ih hrest

/-- More values find at least as much. -/
theorem firstString_of_subset {u v : List Json} (huv : u ⊆ v) (h : firstString u ≠ "") :
    firstString v ≠ "" :=
  firstString_of_mem h (huv (firstString_mem h))

theorem firstString_append (u v : List Json) :
    firstString (u ++ v) = if firstString u = "" then firstString v else firstString u := by
  induction u with
  | nil => simp [firstString]
  | cons x rest ih =>
    cases x with
    | str s =>
      by_cases hs : s = ""
      · simp only [List.cons_append, firstString, if_pos hs]; exact ih
      · simp only [List.cons_append, firstString, if_neg hs]
    | null => exact ih
    | bool b => exact ih
    | int n => exact ih
    | float t => exact ih
    | arr xs => exact ih
    | obj d => exact ih

private theorem append_bracket_ne_empty (a b c : String) (h : a ≠ "") : a ++ b ++ c ≠ "" := by
  intro hc
  have h' := congrArg String.toList hc
  simp only [String.toList_append] at h'
  apply h
  rw [← String.toList_inj]
  exact (List.append_eq_nil_iff.mp (List.append_eq_nil_iff.mp h').1).1

theorem toString_ne_empty (n : Int) : toString n ≠ "" := by
  intro hn
  have hlen := congrArg String.length hn
  cases n with
  | ofNat m =>
    have hdigits : toString (Int.ofNat m) = Nat.repr m := rfl
    rw [hdigits] at hlen
    have hpos := Nat.length_repr_pos (n := m)
    simp at hlen
  | negSucc m =>
    have hsign : toString (Int.negSucc m) = "-" ++ Nat.repr (m + 1) := rfl
    rw [hsign] at hlen
    simp at hlen

/-- A value that counts as true prints as a non-empty text. -/
theorem pyStr_ne_empty {v : Json} (h : truthy v = true) : pyStr v ≠ "" := by
  cases v with
  | null => exact nomatch h
  | bool b => cases b <;> simp [pyStr, pyRepr]
  | int n =>
    exact toString_ne_empty n
  | float t =>
    show t ≠ ""
    rintro rfl
    exact nomatch h
  | str s => simpa using h
  | arr xs => exact append_bracket_ne_empty _ _ _ (by decide)
  | obj d => exact append_bracket_ne_empty _ _ _ (by decide)

/-- `str(v or "")` is empty exactly when `v` counts as false. -/
theorem strOr_eq_empty_iff {v : Json} : strOr v = "" ↔ truthy v = false := by
  cases h : truthy v with
  | false => simp [strOr, h]
  | true =>
    simp only [strOr, h, if_true]
    exact ⟨fun hc => absurd hc (pyStr_ne_empty h), nofun⟩

end KeyholeJson
