import Keyhole.SeparatedText
import Keyhole.Utf8Text

/-!
# Server-sent events

The interpretation of an event stream: lines that end with LF, CR or CRLF, fields before and
after the first colon, and an event at each blank line that has data before it.

* `lines`: the lines of the bytes; what no line break ends is no line;
* `Pending`: the fields read since the last blank line, with the event id and the
  reconnection time that stay in force;
* `events`, `parse`: the events of lines, and of a stream of bytes;
* `lines_flatMap`: lines written with line breaks behind them are read again;
* `joined_inj`: the data of an event has one reading as lines. -/

namespace EventStream

open Utf8Text

/-! ## Lines -/

/-- The lines that end in the bytes; `line` is read already, `cr` where a CR was the last
    byte. -/
def linesFrom (line : List UInt8) (cr : Bool) : List UInt8 → List (List UInt8)
  | [] => []
  | b :: bytes =>
      if b = 10 then
        -- the LF of a CRLF ends no line of its own
        if cr then linesFrom [] false bytes else line :: linesFrom [] false bytes
      else if b = 13 then line :: linesFrom [] true bytes
      else linesFrom (line ++ [b]) false bytes

/-- The lines of a stream. -/
def lines (bytes : List UInt8) : List (List UInt8) := linesFrom [] false bytes

/-- A line without line breaks in it. -/
def Unbroken (line : List UInt8) : Prop := ∀ b ∈ line, b ≠ 10 ∧ b ≠ 13

/-- Text without line breaks in it. -/
def OneLine (text : List Char) : Prop := '\n' ∉ text ∧ '\r' ∉ text

instance (text : List Char) : Decidable (OneLine text) := inferInstanceAs (Decidable (_ ∧ _))

/-- The byte order mark is no part of the first line. -/
def unmarked : List Char → List Char
  | [] => []
  | c :: text => if c = Char.ofNat 0xFEFF then text else c :: text

/-- The decoded lines, the first of them without its byte order mark. -/
def unmarkFirst : List (List Char) → List (List Char)
  | [] => []
  | line :: rest => unmarked line :: rest

/-! ## Fields and events -/

/-- An event: its type and data, the event id and the reconnection time in force. -/
structure ServerEvent where
  type : List Char
  data : List Char
  id : List Char
  retry : Option (List Char)
  deriving DecidableEq

/-- The data lines of an event, with line breaks between them. -/
def joined (data : List (List Char)) : List Char :=
  SeparatedText.separated '\n' (fun line => line) data

/-- The value of a field: one space after the colon is no part of it. -/
def unspaced : List Char → List Char
  | ' ' :: value => value
  | value => value

/-- The name and the value of the field on a line. -/
def field (line : List Char) : List Char × List Char :=
  (line.takeWhile (fun c => c != ':'), unspaced ((line.dropWhile (fun c => c != ':')).drop 1))

/-- What was read since the last blank line, and what stays in force. -/
structure Pending where
  type : List Char := []
  data : List (List Char) := []
  id : List Char := []
  retry : Option (List Char) := none

/-- One field; a name that is none of these is ignored. -/
def Pending.set (p : Pending) (name value : List Char) : Pending :=
  if name = "event".toList then { p with type := value }
  else if name = "data".toList then { p with data := p.data ++ [value] }
  else if name = "id".toList then
    if value.contains '\x00' then p else { p with id := value }
  else if name = "retry".toList then
    if value ≠ [] ∧ value.all Char.isDigit = true then { p with retry := some value } else p
  else p

/-- A line that is not blank; a comment is a field without a name. -/
def Pending.read (p : Pending) (line : List Char) : Pending := p.set (field line).1 (field line).2

/-- A blank line: the event, if there is data. -/
def Pending.dispatch (p : Pending) : List ServerEvent :=
  if p.data = [] then []
  else [⟨if p.type = [] then "message".toList else p.type, joined p.data, p.id, p.retry⟩]

/-- A blank line: what stays in force. -/
def Pending.cleared (p : Pending) : Pending := { p with type := [], data := [] }

/-- The events of lines. -/
def events (p : Pending) : List (List Char) → List ServerEvent
  | [] => []
  | line :: rest =>
      if line = [] then p.dispatch ++ events p.cleared rest else events (p.read line) rest

/-- The events of a stream of bytes. -/
def parse (bytes : List UInt8) : List ServerEvent :=
  events {} (unmarkFirst ((lines bytes).map decode))

/-! ## Lines that were written -/

/-- A line and its line break, LF or CRLF. -/
def ended (crlf : Bool) (line : List UInt8) : List UInt8 :=
  line ++ if crlf then [13, 10] else [10]

theorem linesFrom_append {content : List UInt8} (h : Unbroken content) (rest : List UInt8) :
    ∀ line, linesFrom line false (content ++ rest) = linesFrom (line ++ content) false rest := by
  induction content with
  | nil =>
    intro line
    rw [List.append_nil, List.nil_append]
  | cons b content ih =>
    intro line
    obtain ⟨hlf, hcr⟩ := h b List.mem_cons_self
    rw [List.cons_append, linesFrom, if_neg hlf, if_neg hcr,
      ih (fun c hc => h c (List.mem_cons_of_mem _ hc)), List.append_assoc]
    rfl

/-- One line is read off the front. -/
theorem lines_ended {content : List UInt8} (h : Unbroken content) (crlf : Bool)
    (rest : List UInt8) : lines (ended crlf content ++ rest) = content :: lines rest := by
  rw [lines, ended, List.append_assoc, linesFrom_append h]
  cases crlf <;> rfl

/-- Lines written one after the other are read again. -/
theorem lines_flatMap {α : Type} {content : α → List UInt8} (crlf : α → Bool) {wire : List α}
    (h : ∀ w ∈ wire, Unbroken (content w)) :
    lines (wire.flatMap fun w => ended (crlf w) (content w)) = wire.map content := by
  induction wire with
  | nil => rfl
  | cons w wire ih =>
    rw [List.flatMap_cons, lines_ended (h w List.mem_cons_self),
      ih (fun v hv => h v (List.mem_cons_of_mem _ hv)), List.map_cons]

theorem decode_oneLine {line : List UInt8} (h : Unbroken line) : OneLine (decode line) := by
  constructor
  · refine decode_avoids (by decide) (by decide) (fun b hb heq => (h b hb).1 ?_)
    exact UInt8.toNat_inj.mp heq
  · refine decode_avoids (by decide) (by decide) (fun b hb heq => (h b hb).2 ?_)
    exact UInt8.toNat_inj.mp heq

theorem encode_unbroken {text : List Char} (h : OneLine text) : Unbroken (encode text) := by
  intro b hb
  constructor
  · rintro rfl
    exact encode_avoids (by decide) h.1 10 hb rfl
  · rintro rfl
    exact encode_avoids (by decide) h.2 13 hb rfl

/-! ## Fields -/

section Fields

variable {p q : Pending} {name : List Char}

theorem set_event (p : Pending) (value : List Char) :
    p.set "event".toList value = { p with type := value } := by
  rw [Pending.set, if_pos rfl]

theorem set_data (p : Pending) (value : List Char) :
    p.set "data".toList value = { p with data := p.data ++ [value] } := by
  rw [Pending.set, if_neg (by decide), if_pos rfl]

/-- Another field leaves the type and the data alone. -/
theorem set_other (p : Pending) (value : List Char) (hevent : name ≠ "event".toList)
    (hdata : name ≠ "data".toList) :
    (p.set name value).type = p.type ∧ (p.set name value).data = p.data := by
  rw [Pending.set, if_neg hevent, if_neg hdata]
  by_cases hid : name = "id".toList
  · rw [if_pos hid]
    split <;> exact ⟨rfl, rfl⟩
  · rw [if_neg hid]
    split
    · split <;> exact ⟨rfl, rfl⟩
    · exact ⟨rfl, rfl⟩

/-- What is in force behind a field depends on the field and on what was in force. -/
theorem set_inForce (hid : q.id = p.id) (hretry : q.retry = p.retry)
    (hdata : name ≠ "data".toList) (value : List Char) :
    (q.set name value).id = (p.set name value).id
      ∧ (q.set name value).retry = (p.set name value).retry := by
  rw [Pending.set, Pending.set]
  by_cases hevent : name = "event".toList
  · rw [if_pos hevent, if_pos hevent]
    exact ⟨hid, hretry⟩
  rw [if_neg hevent, if_neg hevent, if_neg hdata, if_neg hdata]
  by_cases hname : name = "id".toList
  · rw [if_pos hname, if_pos hname]
    split
    · exact ⟨hid, hretry⟩
    · exact ⟨rfl, hretry⟩
  rw [if_neg hname, if_neg hname]
  split
  · split
    · exact ⟨hid, rfl⟩
    · exact ⟨hid, hretry⟩
  · exact ⟨hid, hretry⟩

end Fields

/-! ## Data lines -/

theorem joined_singleton (line : List Char) : joined [line] = line := rfl

theorem joined_cons_cons (line other : List Char) (rest : List (List Char)) :
    joined (line :: other :: rest) = line ++ '\n' :: joined (other :: rest) := rfl

/-- The data of an event has one reading as lines. -/
theorem joined_inj : ∀ {as bs : List (List Char)}, as.length = bs.length →
    (∀ a ∈ as, '\n' ∉ a) → (∀ b ∈ bs, '\n' ∉ b) → joined as = joined bs → as = bs := by
  intro as
  induction as with
  | nil =>
    intro bs hlength _ _ _
    exact (List.length_eq_zero_iff.mp hlength.symm).symm
  | cons a as ih =>
    intro bs hlength has hbs h
    cases bs with
    | nil => exact nomatch hlength
    | cons b bs =>
      have hlength' : as.length = bs.length := Nat.succ.inj hlength
      cases as with
      | nil =>
        obtain rfl := List.length_eq_zero_iff.mp hlength'.symm
        rw [joined_singleton, joined_singleton] at h
        rw [h]
      | cons a' as =>
        cases bs with
        | nil => exact nomatch hlength'
        | cons b' bs =>
          have hends : ∀ rest, SeparatedText.Ends (fun c => c = '\n') ('\n' :: rest) :=
            fun rest => @SeparatedText.ends_cons _ (fun c => c = '\n') _ rfl rest
          rw [joined_cons_cons, joined_cons_cons] at h
          obtain ⟨rfl, hrest⟩ := SeparatedText.word_agree
            (fun c hc (hbreak : c = '\n') => has a List.mem_cons_self (hbreak ▸ hc))
            (fun c hc (hbreak : c = '\n') => hbs b List.mem_cons_self (hbreak ▸ hc))
            (hends _) (hends _) h
          rw [ih hlength' (fun x hx => has x (List.mem_cons_of_mem _ hx))
            (fun x hx => hbs x (List.mem_cons_of_mem _ hx)) (List.cons.inj hrest).2]

end EventStream
