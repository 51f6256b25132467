import Mathlib.Data.List.Basic

/-!
# UTF-8 text with replacement

The decoder reads one byte at a time and keeps the character it is inside.  A byte that the
character cannot have next ends it: one replacement character stands for what was read of
it, and the byte is read again as a first byte.  So is the text of a decoder that never fails.

* `decode_encode`: what was encoded is decoded to itself;
* `decode_avoids`, `encode_avoids`: a line break of the text is a line break of the bytes,
  and the other way round. -/

namespace Utf8Text

/-- The character that stands for bytes that are none. -/
def replacement : Char := Char.ofNat 0xFFFD

/-- A character whose first bytes were read: their value, how many more it needs, and the
    least and the greatest byte that may come next. -/
structure Begun where
  value : Nat
  needed : Nat
  low : Nat
  high : Nat

/-- The character that a byte begins, where it is the first byte of several. -/
def begin? (b : Nat) : Option Begun :=
  if b < 0xC2 then none
  else if b ≤ 0xDF then some ⟨b - 0xC0, 1, 0x80, 0xBF⟩
  else if b ≤ 0xEF then
    some ⟨b - 0xE0, 2, if b = 0xE0 then 0xA0 else 0x80, if b = 0xED then 0x9F else 0xBF⟩
  else if b ≤ 0xF4 then
    some ⟨b - 0xF0, 3, if b = 0xF0 then 0x90 else 0x80, if b = 0xF4 then 0x8F else 0xBF⟩
  else none

/-- A byte between two characters: the text it completes and the character it begins. -/
def first (b : Nat) : List Char × Option Begun :=
  if b < 0x80 then ([Char.ofNat b], none)
  else match begin? b with
    | some begun => ([], some begun)
    | none => ([replacement], none)

/-- A byte inside a character. -/
def further (begun : Begun) (b : Nat) : List Char × Option Begun :=
  if begun.low ≤ b ∧ b ≤ begun.high then
    let value := begun.value * 64 + (b - 0x80)
    if begun.needed = 1 then ([Char.ofNat value], none)
    else ([], some ⟨value, begun.needed - 1, 0x80, 0xBF⟩)
  else (replacement :: (first b).1, (first b).2)

/-- One byte. -/
def next (inside : Option Begun) (b : Nat) : List Char × Option Begun :=
  match inside with
  | some begun => further begun b
  | none => first b

/-- The text of bytes, the first of which are read inside a character. -/
def decodeFrom (inside : Option Begun) : List UInt8 → List Char
  | [] => if inside.isSome then [replacement] else []
  | b :: bytes => (next inside b.toNat).1 ++ decodeFrom (next inside b.toNat).2 bytes

/-- `bytes.decode("utf-8", "replace")`. -/
def decode (bytes : List UInt8) : List Char := decodeFrom none bytes

/-- `text.encode("utf-8")`. -/
def encode (text : List Char) : List UInt8 := text.flatMap String.utf8EncodeChar

@[simp] theorem encode_nil : encode [] = [] := rfl

@[simp] theorem encode_cons (c : Char) (text : List Char) :
    encode (c :: text) = String.utf8EncodeChar c ++ encode text := rfl

@[simp] theorem encode_append (a b : List Char) : encode (a ++ b) = encode a ++ encode b :=
  List.flatMap_append

/-! ## The round trip -/

variable {b : Nat} {begun : Begun} {c : Char}

theorem decodeFrom_first {inside : Option Begun} {emitted : List Char}
    (hb : b < 256) (h : first b = (emitted, inside)) (bytes : List UInt8) :
    decodeFrom none (UInt8.ofNat b :: bytes) = emitted ++ decodeFrom inside bytes := by
  have hnat : (UInt8.ofNat b).toNat = b := by
    rw [UInt8.toNat_ofNat']
    omega
  show (first (UInt8.ofNat b).toNat).1 ++ decodeFrom (first (UInt8.ofNat b).toNat).2 bytes = _
  rw [hnat, h]

/-- A byte that the character may have next, and more are needed. -/
theorem decodeFrom_more (hb : b < 256)
    (hlow : begun.low ≤ b) (hhigh : b ≤ begun.high) (hneeded : begun.needed ≠ 1)
    (bytes : List UInt8) :
    decodeFrom (some begun) (UInt8.ofNat b :: bytes)
      = decodeFrom (some ⟨begun.value * 64 + (b - 0x80), begun.needed - 1, 0x80, 0xBF⟩)
          bytes := by
  have hnat : (UInt8.ofNat b).toNat = b := by
    rw [UInt8.toNat_ofNat']
    omega
  show (further begun (UInt8.ofNat b).toNat).1
    ++ decodeFrom (further begun (UInt8.ofNat b).toNat).2 bytes = _
  rw [hnat, further, if_pos ⟨hlow, hhigh⟩]
  simp only [if_neg hneeded, List.nil_append]

/-- The last byte of a character. -/
theorem decodeFrom_last (hb : b < 256)
    (hlow : begun.low ≤ b) (hhigh : b ≤ begun.high) (hneeded : begun.needed = 1)
    (bytes : List UInt8) :
    decodeFrom (some begun) (UInt8.ofNat b :: bytes)
      = Char.ofNat (begun.value * 64 + (b - 0x80)) :: decodeFrom none bytes := by
  have hnat : (UInt8.ofNat b).toNat = b := by
    rw [UInt8.toNat_ofNat']
    omega
  show (further begun (UInt8.ofNat b).toNat).1
    ++ decodeFrom (further begun (UInt8.ofNat b).toNat).2 bytes = _
  rw [hnat, further, if_pos ⟨hlow, hhigh⟩]
  simp only [if_pos hneeded, List.cons_append, List.nil_append]

/-- A first byte of several. -/
theorem first_of_begin (h : begin? b = some begun) :
    first b = ([], some begun) := by
  have hb : ¬b < 0x80 := by
    intro hb
    rw [begin?, if_pos (by omega)] at h
    exact nomatch h
  rw [first, if_neg hb, h]

theorem toNat_scalar (c : Char) : c.toNat < 0xD800 ∨ 0xDFFF < c.toNat ∧ c.toNat < 0x110000 :=
  c.valid

/-- One encoded character is decoded to itself. -/
theorem decode_char (c : Char) (bytes : List UInt8) :
    decodeFrom none (String.utf8EncodeChar c ++ bytes) = c :: decodeFrom none bytes := by
  have hvalid := toNat_scalar c
  have hchar : Char.ofNat c.toNat = c := Char.ofNat_toNat c
  generalize hn : c.toNat = n at hvalid hchar
  have hval : c.val.toNat = n := hn
  rw [String.utf8EncodeChar, hval]
  by_cases h1 : n ≤ 0x7F
  · simp only [if_pos h1, List.cons_append, List.nil_append]
    rw [decodeFrom_first (by omega) (by rw [first, if_pos (by omega)]), hchar]
    rfl
  by_cases h2 : n ≤ 0x7FF
  · simp only [if_neg h1, if_pos h2, List.cons_append, List.nil_append]
    have hlead : begin? (n / 64 % 32 + 192) = some ⟨n / 64, 1, 0x80, 0xBF⟩ := by
      have hv : n / 64 % 32 + 192 - 0xC0 = n / 64 := by omega
      rw [begin?, if_neg (by omega), if_pos (by omega), hv]
    rw [decodeFrom_first (by omega) (first_of_begin hlead), List.nil_append,
      decodeFrom_last (by omega) (by show 0x80 ≤ _; omega) (by show _ ≤ 0xBF; omega) rfl]
    have hvalue : n / 64 * 64 + (n % 64 + 128 - 0x80) = n := by omega
    rw [hvalue, hchar]
  by_cases h3 : n ≤ 0xFFFF
  · simp only [if_neg h1, if_neg h2, if_pos h3, List.cons_append, List.nil_append]
    have hlead : begin? (n / 4096 % 16 + 224)
        = some ⟨n / 4096, 2, if n / 4096 = 0 then 0xA0 else 0x80,
            if n / 4096 = 13 then 0x9F else 0xBF⟩ := by
      rw [begin?, if_neg (by omega), if_neg (by omega), if_pos (by omega)]
      have h0 : n / 4096 % 16 + 224 = 224 ↔ n / 4096 = 0 := by omega
      have h13 : n / 4096 % 16 + 224 = 237 ↔ n / 4096 = 13 := by omega
      have hv : n / 4096 % 16 + 224 - 224 = n / 4096 := by omega
      simp only [h0, h13, hv]
    rw [decodeFrom_first (by omega) (first_of_begin hlead), List.nil_append,
      decodeFrom_more (by omega) (by show (if _ then _ else _) ≤ _; split <;> omega)
        (by show _ ≤ (if _ then _ else _); split <;> omega) (by show 2 ≠ 1; omega),
      decodeFrom_last (by omega) (by show 0x80 ≤ _; omega) (by show _ ≤ 0xBF; omega) rfl]
    have hvalue :
        (n / 4096 * 64 + (n / 64 % 64 + 128 - 0x80)) * 64 + (n % 64 + 128 - 0x80) = n := by
      omega
    rw [hvalue, hchar]
  · simp only [if_neg h1, if_neg h2, if_neg h3, List.cons_append, List.nil_append]
    have hlead : begin? (n / 262144 % 8 + 240)
        = some ⟨n / 262144, 3, if n / 262144 = 0 then 0x90 else 0x80,
            if n / 262144 = 4 then 0x8F else 0xBF⟩ := by
      rw [begin?, if_neg (by omega), if_neg (by omega), if_neg (by omega), if_pos (by omega)]
      have h0 : n / 262144 % 8 + 240 = 240 ↔ n / 262144 = 0 := by omega
      have h4 : n / 262144 % 8 + 240 = 244 ↔ n / 262144 = 4 := by omega
      have hv : n / 262144 % 8 + 240 - 240 = n / 262144 := by omega
      simp only [h0, h4, hv]
    rw [decodeFrom_first (by omega) (first_of_begin hlead), List.nil_append,
      decodeFrom_more (by omega) (by show (if _ then _ else _) ≤ _; split <;> omega)
        (by show _ ≤ (if _ then _ else _); split <;> omega) (by show 3 ≠ 1; omega),
      decodeFrom_more (by omega) (by show 0x80 ≤ _; omega) (by show _ ≤ 0xBF; omega)
        (by show 3 - 1 ≠ 1; omega),
      decodeFrom_last (by omega) (by show 0x80 ≤ _; omega) (by show _ ≤ 0xBF; omega) rfl]
    have hvalue : ((n / 262144 * 64 + (n / 4096 % 64 + 128 - 0x80)) * 64
        + (n / 64 % 64 + 128 - 0x80)) * 64 + (n % 64 + 128 - 0x80) = n := by
      omega
    rw [hvalue, hchar]

/-- What was encoded is decoded to itself. -/
@[simp] theorem decode_encode (text : List Char) : decode (encode text) = text := by
  induction text with
  | nil => rfl
  | cons c text ih =>
    show decodeFrom none (String.utf8EncodeChar c ++ encode text) = c :: text
    rw [decode_char]
    exact congrArg (c :: ·) ih

/-! ## Line breaks -/

/-- The value of a character that needs another byte is past the first 128. -/
def Begun.Wide (begun : Begun) : Prop :=
  2 ≤ begun.value ∨ 1 < begun.needed ∧ 0x82 ≤ begun.value * 64 + begun.low

theorem begin?_wide (h : begin? b = some begun) : begun.Wide := by
  rw [begin?] at h
  by_cases h1 : b < 0xC2
  · rw [if_pos h1] at h
    exact nomatch h
  rw [if_neg h1] at h
  by_cases h2 : b ≤ 0xDF
  · rw [if_pos h2] at h
    obtain rfl := Option.some.inj h
    left
    show 2 ≤ b - 0xC0
    omega
  rw [if_neg h2] at h
  by_cases h3 : b ≤ 0xEF
  · rw [if_pos h3] at h
    obtain rfl := Option.some.inj h
    right
    refine ⟨by show 1 < 2; omega, ?_⟩
    show 0x82 ≤ (b - 0xE0) * 64 + (if b = 0xE0 then 0xA0 else 0x80)
    split <;> omega
  rw [if_neg h3] at h
  by_cases h4 : b ≤ 0xF4
  · rw [if_pos h4] at h
    obtain rfl := Option.some.inj h
    right
    refine ⟨by show 1 < 3; omega, ?_⟩
    show 0x82 ≤ (b - 0xF0) * 64 + (if b = 0xF0 then 0x90 else 0x80)
    split <;> omega
  · rw [if_neg h4] at h
    exact nomatch h

theorem toNat_ofNat_valid {n : Nat} (h : n.isValidChar) : (Char.ofNat n).toNat = n := by
  rw [Char.ofNat, dif_pos h]
  rfl

/-- A code of 128 or more is no ASCII character but the null, which stands for what is no
    character. -/
theorem ofNat_ne {n : Nat} (hn : 128 ≤ n) (hc : 0 < c.toNat) (hc' : c.toNat < 128) :
    c ≠ Char.ofNat n := by
  rintro rfl
  by_cases hvalid : n.isValidChar
  · rw [toNat_ofNat_valid hvalid] at hc'
    omega
  · rw [Char.ofNat, dif_neg hvalid] at hc
    exact absurd hc (Nat.lt_irrefl 0)

section Avoids

variable {c : Char} (hc : 0 < c.toNat) (hc' : c.toNat < 128)
include hc hc'

theorem ne_replacement : c ≠ replacement := ofNat_ne (by omega) hc hc'

theorem first_avoids (hb : b ≠ c.toNat) :
    c ∉ (first b).1 ∧ ∀ begun ∈ (first b).2, begun.Wide := by
  rw [first]
  by_cases h1 : b < 0x80
  · rw [if_pos h1]
    refine ⟨?_, nofun⟩
    intro h
    obtain rfl := List.mem_singleton.mp h
    rw [toNat_ofNat_valid (.inl (by omega))] at hb
    exact hb rfl
  rw [if_neg h1]
  cases hbegin : begin? b with
  | some begun =>
    refine ⟨List.not_mem_nil, fun other h => ?_⟩
    obtain rfl := Option.some.inj h
    exact begin?_wide hbegin
  | none =>
    refine ⟨fun h => ?_, nofun⟩
    exact ne_replacement hc hc' (List.mem_singleton.mp h)

theorem further_avoids (hwide : begun.Wide) (hb : b ≠ c.toNat) :
    c ∉ (further begun b).1 ∧ ∀ other ∈ (further begun b).2, other.Wide := by
  rw [further]
  by_cases hrange : begun.low ≤ b ∧ b ≤ begun.high
  · rw [if_pos hrange]
    by_cases hneeded : begun.needed = 1
    · simp only [if_pos hneeded]
      refine ⟨fun h => ?_, nofun⟩
      refine ofNat_ne ?_ hc hc' (List.mem_singleton.mp h)
      obtain hvalue | ⟨hmore, -⟩ := hwide <;> omega
    · simp only [if_neg hneeded]
      refine ⟨List.not_mem_nil, fun other h => ?_⟩
      obtain rfl := Option.some.inj h
      left
      show 2 ≤ begun.value * 64 + (b - 0x80)
      obtain hvalue | ⟨-, hlow⟩ := hwide <;> omega
  · rw [if_neg hrange]
    obtain ⟨hfirst, hbegun⟩ := first_avoids hc hc' hb
    refine ⟨fun h => ?_, hbegun⟩
    cases List.mem_cons.mp h with
    | inl h => exact ne_replacement hc hc' h
    | inr h => exact hfirst h

/-- An ASCII character is in the text only where its byte is. -/
theorem decodeFrom_avoids {bytes : List UInt8} (hbytes : ∀ b ∈ bytes, b.toNat ≠ c.toNat) :
    ∀ inside : Option Begun, (∀ begun ∈ inside, begun.Wide) → c ∉ decodeFrom inside bytes := by
  induction bytes with
  | nil =>
    intro inside _ h
    rw [decodeFrom] at h
    by_cases hinside : inside.isSome = true
    · rw [if_pos hinside] at h
      exact ne_replacement hc hc' (List.mem_singleton.mp h)
    · rw [if_neg hinside] at h
      exact nomatch h
  | cons b bytes ih =>
    intro inside hwide h
    have hb := hbytes b List.mem_cons_self
    have hnext : c ∉ (next inside b.toNat).1
        ∧ ∀ begun ∈ (next inside b.toNat).2, begun.Wide := by
      cases inside with
      | none => exact first_avoids hc hc' hb
      | some begun => exact further_avoids hc hc' (hwide begun rfl) hb
    cases List.mem_append.mp h with
    | inl h => exact hnext.1 h
    | inr h => exact ih (fun b hb => hbytes b (List.mem_cons_of_mem _ hb)) _ hnext.2 h

theorem decode_avoids {bytes : List UInt8} (hbytes : ∀ b ∈ bytes, b.toNat ≠ c.toNat) :
    c ∉ decode bytes :=
  decodeFrom_avoids hc hc' hbytes none nofun

end Avoids

/-- The bytes of a character: its code, or bytes past the first 128. -/
theorem mem_utf8EncodeChar {b : UInt8} (h : b ∈ String.utf8EncodeChar c) :
    b.toNat = c.toNat ∨ 128 ≤ b.toNat := by
  have hval : c.val.toNat = c.toNat := rfl
  rw [String.utf8EncodeChar, hval] at h
  by_cases h1 : c.toNat ≤ 0x7F
  · simp only [if_pos h1, List.mem_singleton] at h
    left
    rw [h, UInt8.toNat_ofNat']
    omega
  right
  by_cases h2 : c.toNat ≤ 0x7FF
  · simp only [if_neg h1, if_pos h2, List.mem_cons, List.not_mem_nil, or_false] at h
    rcases h with rfl | rfl <;> rw [UInt8.toNat_ofNat'] <;> omega
  by_cases h3 : c.toNat ≤ 0xFFFF
  · simp only [if_neg h1, if_neg h2, if_pos h3, List.mem_cons, List.not_mem_nil, or_false] at h
    rcases h with rfl | rfl | rfl <;> rw [UInt8.toNat_ofNat'] <;> omega
  · simp only [if_neg h1, if_neg h2, if_neg h3, List.mem_cons, List.not_mem_nil, or_false] at h
    rcases h with rfl | rfl | rfl | rfl <;> rw [UInt8.toNat_ofNat'] <;> omega

/-- The byte of an ASCII character is in the encoded text only where the character is. -/
theorem encode_avoids (hc : c.toNat < 128) {text : List Char} (htext : c ∉ text) :
    ∀ b ∈ encode text, b.toNat ≠ c.toNat := by
  intro b hb hbc
  obtain ⟨d, hd, hbd⟩ := List.mem_flatMap.mp hb
  have hdc : d.toNat ≠ c.toNat := fun h => htext (Char.toNat_inj.mp h ▸ hd)
  cases mem_utf8EncodeChar hbd with
  | inl h => exact hdc (h.symm.trans hbc)
  | inr h => omega

end Utf8Text
