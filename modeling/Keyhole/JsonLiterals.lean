import Keyhole.JsonDocument
import Keyhole.SeparatedText
import Mathlib.Data.List.Basic

/-!
# JSON string literals read back

The escapes of `json.dumps` with ASCII output form a prefix code: whatever stands behind the
text of a character, the character can be read off.  So a literal, and a list of literals, can
be read off the front of a text.

* `readChar`: one character off a text, `readChar_dumpChar`;
* `literal_agree`: what two texts that begin with a literal have in common;
* `literals_agree`: the same for a list of literals. -/

namespace KeyholeJson

open SeparatedText

/-! ## Numbers -/

theorem repr_agree {n n' : Nat} (h : n.repr = n'.repr) : n = n' := by
  have hdigits := congrArg String.toList h
  rw [Nat.toList_repr, Nat.toList_repr] at hdigits
  have hvalue := congrArg (fun l => Nat.ofDigitChars 10 l 0) hdigits
  simpa using hvalue

/-- An integer is told apart by its digits and its sign. -/
theorem int_agree {m m' : Int} (h : (toString m).toList = (toString m').toList) : m = m' := by
  have hrepr : m.repr = m'.repr := String.toList_inj.mp h
  have hsign : ∀ n n' : Nat, n.repr ≠ "-" ++ n'.repr := by
    intro n n' heq
    have hfirst := congrArg String.toList heq
    rw [Nat.toList_repr, String.toList_append] at hfirst
    have hmem : '-' ∈ Nat.toDigits 10 n := hfirst ▸ List.mem_cons_self
    have hdigit : ('-').isDigit = true :=
      Nat.isDigit_of_mem_toDigits (show 0 < 10 by decide) (show 10 ≤ 10 by decide) hmem
    exact absurd hdigit (by decide)
  rw [Int.repr_eq_if, Int.repr_eq_if] at hrepr
  by_cases hm : 0 ≤ m
  · by_cases hm' : 0 ≤ m'
    · rw [if_pos hm, if_pos hm'] at hrepr
      have hnat := repr_agree hrepr
      omega
    · rw [if_pos hm, if_neg hm'] at hrepr
      exact absurd hrepr (hsign _ _)
  · by_cases hm' : 0 ≤ m'
    · rw [if_neg hm, if_pos hm'] at hrepr
      exact absurd hrepr.symm (hsign _ _)
    · rw [if_neg hm, if_neg hm'] at hrepr
      have hnat := repr_agree ((String.append_right_inj "-").mp hrepr)
      omega

/-! ## One character -/

/-- The value of a hexadecimal digit. -/
def hexVal (c : Char) : Nat := if c.isDigit then c.toNat - 48 else c.toNat - 87

/-- One `\\uXXXX`. -/
def readUnit : List Char → Option (Nat × List Char)
  | '\\' :: 'u' :: a :: b :: c :: d :: rest =>
      some (((hexVal a * 16 + hexVal b) * 16 + hexVal c) * 16 + hexVal d, rest)
  | _ => none

/-- The character of a short escape. -/
def unescape (c : Char) : Char :=
  if c = 'n' then '\n'
  else if c = 'r' then '\r'
  else if c = 't' then '\t'
  else if c = 'b' then '\x08'
  else if c = 'f' then '\x0c'
  else c

/-- One character of a literal, and what stands behind it. -/
def readChar (text : List Char) : Option (Char × List Char) :=
  match readUnit text with
  | some (high, rest) =>
      if 55296 ≤ high ∧ high < 56320 then
        (readUnit rest).map fun low =>
          (Char.ofNat (65536 + (high - 55296) * 1024 + (low.1 - 56320)), low.2)
      else some (Char.ofNat high, rest)
  | none =>
      match text with
      | '\\' :: c :: rest => some (unescape c, rest)
      | c :: rest => some (c, rest)
      | [] => none

theorem hexVal_hexDigit : ∀ n, n < 16 → hexVal (hexDigit n) = n := by decide

/-- A number below `16 ^ 4` is read off its four digits. -/
theorem readUnit_hexDigits {n : Nat} (h : n < 65536) (rest : List Char) :
    readUnit ('\\' :: 'u' :: hexDigits 4 n ++ rest) = some (n, rest) := by
  have hdigit : ∀ m, hexVal (hexDigit (m % 16)) = m % 16 :=
    fun m => hexVal_hexDigit _ (Nat.mod_lt _ (by omega))
  show some (((hexVal (hexDigit (n / 16 / 16 / 16 % 16)) * 16
    + hexVal (hexDigit (n / 16 / 16 % 16))) * 16 + hexVal (hexDigit (n / 16 % 16))) * 16
    + hexVal (hexDigit (n % 16)), rest) = some (n, rest)
  rw [hdigit, hdigit, hdigit, hdigit]
  congr 2
  omega

theorem char_bounds (c : Char) : c.toNat < 55296 ∨ (57343 < c.toNat ∧ c.toNat < 1114112) :=
  c.valid

theorem readChar_of_unit {text rest : List Char} {high : Nat}
    (h : readUnit text = some (high, rest)) :
    readChar text = if 55296 ≤ high ∧ high < 56320 then
      (readUnit rest).map fun low =>
        (Char.ofNat (65536 + (high - 55296) * 1024 + (low.1 - 56320)), low.2)
      else some (Char.ofNat high, rest) := by
  unfold readChar
  rw [h]

theorem readChar_unicodeEscape (c : Char) (rest : List Char) :
    readChar (unicodeEscape c.toNat ++ rest) = some (c, rest) := by
  have hbounds := char_bounds c
  rw [unicodeEscape]
  by_cases hbasic : c.toNat < 65536
  · rw [if_pos hbasic]
    have hplain : ¬ (55296 ≤ c.toNat ∧ c.toNat < 56320) := by omega
    rw [readChar_of_unit (readUnit_hexDigits hbasic rest), if_neg hplain, Char.ofNat_toNat]
  · rw [if_neg hbasic]
    have hhigh : 55296 + (c.toNat - 65536) / 1024 < 65536 := by omega
    have hlow : 56320 + (c.toNat - 65536) % 1024 < 65536 := by omega
    have hpair : 55296 ≤ 55296 + (c.toNat - 65536) / 1024 ∧
        55296 + (c.toNat - 65536) / 1024 < 56320 := by omega
    have hvalue : 65536 + (55296 + (c.toNat - 65536) / 1024 - 55296) * 1024
        + (56320 + (c.toNat - 65536) % 1024 - 56320) = c.toNat := by omega
    rw [List.append_assoc, readChar_of_unit (readUnit_hexDigits hhigh _), if_pos hpair,
      readUnit_hexDigits hlow, Option.map_some, hvalue, Char.ofNat_toNat]

theorem readUnit_of_ne {c d : Char} {rest : List Char} (h : c ≠ '\\' ∨ d ≠ 'u') :
    readUnit (c :: d :: rest) = none := by
  unfold readUnit
  split
  · rename_i heq
    obtain ⟨hc, hrest⟩ := List.cons.inj heq
    obtain ⟨hd, -⟩ := List.cons.inj hrest
    rcases h with h | h
    · exact absurd hc h
    · exact absurd hd h
  · rfl

theorem readChar_short {c : Char} (h : c ≠ 'u') (rest : List Char) :
    readChar ('\\' :: c :: rest) = some (unescape c, rest) := by
  rw [readChar, readUnit_of_ne (.inr h)]

theorem readChar_plain {c : Char} (h : c ≠ '\\') (rest : List Char) :
    readChar (c :: rest) = some (c, rest) := by
  have hunit : readUnit (c :: rest) = none := by
    unfold readUnit
    split
    · rename_i heq
      exact absurd (List.cons.inj heq).1 h
    · rfl
  unfold readChar
  rw [hunit]
  split
  · rename_i heq
    exact nomatch heq
  · split
    · rename_i heq
      exact absurd (List.cons.inj heq).1 h
    · rename_i heq
      obtain ⟨rfl, rfl⟩ := List.cons.inj heq
      rfl
    · rename_i heq
      exact nomatch heq

/-- A character is read off its text, whatever stands behind it. -/
theorem readChar_dumpChar (c : Char) (rest : List Char) :
    readChar (dumpChar c ++ rest) = some (c, rest) := by
  unfold dumpChar
  split
  · rename_i h
    rcases h with rfl | rfl
    · exact readChar_short (by decide) rest
    · exact readChar_short (by decide) rest
  split
  · rename_i h
    rw [h]
    exact readChar_short (by decide) rest
  split
  · rename_i h
    rw [h]
    exact readChar_short (by decide) rest
  split
  · rename_i h
    rw [h]
    exact readChar_short (by decide) rest
  split
  · rename_i h
    rw [h]
    exact readChar_short (by decide) rest
  split
  · rename_i h
    rw [h]
    exact readChar_short (by decide) rest
  split
  · rename_i hspecial _ _ _ _ _ _
    exact readChar_plain (fun h => hspecial (.inr h)) rest
  · exact readChar_unicodeEscape c rest

/-- No character's text begins with the quote that closes a literal. -/
theorem dumpChar_ne_quote (c : Char) (rest rest' : List Char) :
    dumpChar c ++ rest ≠ '\"' :: rest' := by
  intro h
  have hread := readChar_dumpChar c rest
  rw [h, readChar_plain (by decide)] at hread
  obtain ⟨rfl, -⟩ := Prod.mk.inj (Option.some.inj hread)
  exact nomatch (List.cons.inj h).1

/-! ## Literals -/

/-- The characters of a literal. -/
def literal (s : String) : List Char := '\"' :: s.toList.flatMap dumpChar ++ ['\"']

theorem toList_dumpStr (s : String) : (dumpStr s).toList = literal s := String.toList_ofList

theorem body_agree : ∀ {cs cs' rest rest' : List Char},
    cs.flatMap dumpChar ++ '\"' :: rest = cs'.flatMap dumpChar ++ '\"' :: rest' →
    cs = cs' ∧ rest = rest' := by
  intro cs
  induction cs with
  | nil =>
    intro cs' rest rest' h
    cases cs' with
    | nil => exact ⟨rfl, (List.cons.inj h).2⟩
    | cons c' cs' =>
      rw [List.flatMap_cons, List.append_assoc] at h
      exact absurd h.symm (dumpChar_ne_quote c' _ _)
  | cons c cs ih =>
    intro cs' rest rest' h
    rw [List.flatMap_cons, List.append_assoc] at h
    cases cs' with
    | nil => exact absurd h (dumpChar_ne_quote c _ _)
    | cons c' cs' =>
      rw [List.flatMap_cons, List.append_assoc] at h
      have hread := congrArg readChar h
      rw [readChar_dumpChar, readChar_dumpChar] at hread
      obtain ⟨rfl, htail⟩ := Prod.mk.inj (Option.some.inj hread)
      obtain ⟨rfl, hrest⟩ := ih htail
      exact ⟨rfl, hrest⟩

/-- Two texts that begin with a literal are equal only if the literals and the rests are. -/
theorem literal_agree {s s' : String} {rest rest' : List Char}
    (h : literal s ++ rest = literal s' ++ rest') : s = s' ∧ rest = rest' := by
  unfold literal at h
  rw [List.append_assoc, List.append_assoc, List.cons_append, List.cons_append] at h
  obtain ⟨hbody, hrest⟩ := body_agree (List.cons.inj h).2
  exact ⟨String.toList_inj.mp hbody, hrest⟩

/-- The characters of literals with a comma between them. -/
def literals : List String → List Char
  | [] => []
  | [s] => literal s
  | s :: t :: rest => literal s ++ ',' :: literals (t :: rest)

theorem toList_join_dumpStr (texts : List String) :
    (join "," (texts.map dumpStr)).toList = literals texts := by
  induction texts with
  | nil => rfl
  | cons s rest ih =>
    cases rest with
    | nil => exact toList_dumpStr s
    | cons t rest =>
      show (dumpStr s ++ "," ++ join "," ((t :: rest).map dumpStr)).toList = _
      rw [String.toList_append, String.toList_append, toList_dumpStr, ih, List.append_assoc]
      rfl

theorem literals_eq (texts : List String) : literals texts = separated ',' literal texts := by
  induction texts with
  | nil => rfl
  | cons s rest ih =>
    cases rest with
    | nil => rfl
    | cons t rest => rw [literals, separated, ih]

/-- A literal can be read off, whatever ends it. -/
theorem literal_reads (stop : Char → Prop) (s : String) :
    Reads stop literal id (fun _ => True) s :=
  fun _ _ _ _ _ _ h => literal_agree h

theorem literal_ne_bracket (s : String) (rest rest' : List Char) :
    literal s ++ rest ≠ ']' :: rest' := by
  intro h
  exact absurd (List.cons.inj h).1 (by decide)

/-- A bracket closes a list of literals, and inside them it does not count. -/
theorem literals_agree {texts texts' : List String} {rest rest' : List Char}
    (h : literals texts ++ ']' :: rest = literals texts' ++ ']' :: rest') :
    texts = texts' ∧ rest = rest' := by
  have hreads : ∀ s ∈ texts, True ∧
      Reads (fun _ : Char => True) literal id (fun _ => True) s :=
    fun s _ => ⟨trivial, literal_reads _ s⟩
  rw [literals_eq, literals_eq] at h
  obtain ⟨htexts, hrest⟩ := separated_agree trivial trivial (by decide)
    (fun s _ => literal_ne_bracket s) hreads (fun _ _ => trivial) h
  rw [List.map_id, List.map_id] at htexts
  exact ⟨htexts, hrest⟩

end KeyholeJson
