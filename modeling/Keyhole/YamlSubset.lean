import Keyhole.RepoName
import Keyhole.CapabilityNames
import Keyhole.ValidationPipeline

/-!
# The YAML reader without PyYAML

Where PyYAML cannot be imported, `_load_yaml` reads a file with `_load_yaml_subset`: a loop over
the lines that expects its entries at one indentation, calls itself for what is nested two
columns deeper, and leaves every line it does not expect to its caller.

* `yamlScalar`: `_yaml_scalar`, with what `int` and `float` take for a number;
* `parseBlock`: `_parse_yaml_block`, with one unit of fuel for a line;
* `loadYamlSubset_total`: the fuel is enough;
* `Parses`: the reader without the fuel. -/

namespace KeyholeSubset

open KeyholeJson KeyholeNamespace
open KeyholePipeline (isDecimal decimal intMaxStrDigits)
open KeyholeRepoName (splitLines)

/-! ## Scalars -/

/-- Decimal digits with single underscores between them. -/
def digitPart : Text → Bool
  | [] => false
  | [c] => isDecimal c
  | c :: '_' :: rest => isDecimal c && digitPart rest
  | c :: rest => isDecimal c && digitPart rest

/-- What follows a sign. -/
def afterSign : Text → Text
  | '+' :: rest => rest
  | '-' :: rest => rest
  | text => text

/-- `int(text)` of a stripped text, where it does not raise. -/
def intLiteral (text : Text) : Option Int :=
  let digits := (afterSign text).filter isDecimal
  if digitPart (afterSign text) && digits.length ≤ intMaxStrDigits then
    let size : Nat := digits.foldl (fun n c => 10 * n + (decimal c).getD 0) 0
    some (if text.head? = some '-' then -size else size)
  else none

/-- The digits of a float before its exponent. -/
def mantissa (text : Text) : Bool :=
  let whole := text.takeWhile (· != '.')
  match text.dropWhile (· != '.') with
  | [] => digitPart whole
  | _ :: fraction =>
      (whole.isEmpty || digitPart whole) && (fraction.isEmpty || digitPart fraction)
        && !(whole.isEmpty && fraction.isEmpty)

/-- Does `float(text)` of a stripped text return a number? -/
def floatLiteral (text : Text) : Bool :=
  let body := afterSign text
  let isExponent := fun c : Char => c == 'e' || c == 'E'
  ["inf", "infinity", "nan"].contains (lower (String.ofList body))
    || (mantissa (body.takeWhile fun c => !isExponent c)
      && match body.dropWhile fun c => !isExponent c with
        | [] => true
        | _ :: exponent => digitPart (afterSign exponent))

/-- The text starts and ends with the quote. -/
def quotedBy (quote : Char) (text : Text) : Bool :=
  text.head? == some quote && text.getLast? == some quote

/-- The text is quoted, one way or the other. -/
def isQuoted (text : Text) : Bool := quotedBy '\"' text || quotedBy '\'' text

/-- The words for `None` and the truth values. -/
def reservedWords : List (Text × Json) :=
  [("null".toList, .null), ("Null".toList, .null), ("NULL".toList, .null),
    ("true".toList, .bool true), ("True".toList, .bool true), ("TRUE".toList, .bool true),
    ("false".toList, .bool false), ("False".toList, .bool false), ("FALSE".toList, .bool false)]

/-- A text `_yaml_scalar` does not hand to `int`. -/
def leadingZero (text : Text) : Bool :=
  text.head? == some '0' && text != ['0'] && !(['0', '.'].isPrefixOf text)

/-- `_yaml_scalar`.  A float is kept as its literal. -/
def yamlScalar (value : Text) : Json :=
  let text := stripText value
  match reservedWords.lookup text with
  | some word => word
  | none =>
      if isQuoted text then .str (String.ofList (text.drop 1).dropLast)
      else
        match if leadingZero text then none else intLiteral text with
        | some n => .int n
        | none =>
            if floatLiteral text then .float (String.ofList text) else .str (String.ofList text)

/-! ## Lines -/

/-- A line that says nothing, or only a comment. -/
def isBlank (raw : Text) : Bool :=
  (stripText raw).isEmpty || (raw.dropWhile isSpace).head? == some '#'

/-- `len(raw) - len(raw.lstrip(" "))`. -/
def indentOf (raw : Text) : Nat := raw.length - (raw.dropWhile (· == ' ')).length

/-- What is before and after the first colon. -/
def beforeColon (text : Text) : Text := text.takeWhile (· != ':')

def afterColon (text : Text) : Text := (text.dropWhile (· != ':')).drop 1

/-- What a stripped line can be. -/
inductive Line where
  /-- `- key: text` -/
  | mappedItem (key text : Text)
  /-- `- key:` -/
  | keyItem (key : Text)
  /-- `- value` -/
  | item (value : Text)
  /-- an item with nothing on its line -/
  | emptyItem
  /-- a line without a colon -/
  | noKey
  /-- a key with a block scalar -/
  | folded (key : Text)
  /-- `key: text` -/
  | entry (key text : Text)
  /-- `key:` -/
  | opener (key : Text)
  deriving DecidableEq, Repr

/-- The headers of a block scalar. -/
def blockHeaders : List Text := [['>'], ['>', '-'], ['|'], ['|', '-']]

/-- An item of a list. -/
def itemLine (value : Text) : Line :=
  if value.contains ':' && value.getLast? != some ':' then
    .mappedItem (stripText (beforeColon value)) (stripText (afterColon value))
  else if value.getLast? = some ':' then .keyItem (stripText value.dropLast)
  else if value.isEmpty then .emptyItem
  else .item value

/-- A line of a mapping. -/
def keyLine (stripped : Text) : Line :=
  let key := stripText (beforeColon stripped)
  let text := stripText (afterColon stripped)
  if stripped.contains ':' = false then .noKey
  else if blockHeaders.contains text then .folded key
  else if text.isEmpty then .opener key
  else .entry key text

/-- What the loop takes a stripped line for. -/
def lineOf : Text → Line
  | '-' :: ' ' :: value => itemLine value
  | stripped => keyLine stripped

/-! ## The loop -/

inductive Mode where
  | none
  | list
  | block
  deriving DecidableEq, Repr

/-- Where the loop of `_parse_yaml_block` stands. -/
structure Block where
  mode : Mode := .none
  items : List Json := []
  result : Dict := []

/-- What the loop returns where it stands. -/
def Block.value (s : Block) : Json := if s.mode = .list then .arr s.items else .obj s.result

def Block.addItem (s : Block) (v : Json) : Block :=
  { s with mode := .list, items := s.items ++ [v] }

def Block.addEntry (s : Block) (key : Text) (v : Json) : Block :=
  { s with mode := .block, result := s.result.set (String.ofList key) v }

/-- `d.update(updates)`. -/
def merged (d updates : Dict) : Dict := updates.foldl (fun d kv => Dict.set d kv.1 kv.2) d

/-- The item of a line `- key: text`, with what is nested below it. -/
def mappedValue (key text : Text) (nested : Json) : Json :=
  let item : Dict := [(String.ofList key, yamlScalar text)]
  match nested with
  | .obj entries => .obj (merged item entries)
  | .arr (first :: items) => .obj (item.set (String.ofList key) (.arr (first :: items)))
  | _ => .obj item

/-- The lines of a block scalar below an indentation, and the lines after it. -/
def foldedLines (current : Nat) : List Text → List Text × List Text
  | [] => ([], [])
  | next :: rest =>
      if (stripText next).isEmpty then
        ([] :: (foldedLines current rest).1, (foldedLines current rest).2)
      else if indentOf next ≤ current then ([], next :: rest)
      else
        (next.drop (indentOf next) :: (foldedLines current rest).1, (foldedLines current rest).2)

/-- `" ".join(part.strip() for part in block_lines if part.strip())`. -/
def foldedValue (parts : List Text) : Json :=
  .str (join " " ((parts.map stripText).filterMap fun part =>
    if part.isEmpty then none else some (String.ofList part)))

/-- The line is not one the loop reads at this indentation. -/
def breaksAt (indent : Nat) (mode : Mode) (raw : Text) : Bool :=
  indentOf raw < indent || (indent < indentOf raw && mode != .block)

/-- `_parse_yaml_block`: the value, and the lines that are left to the caller. -/
def parseBlock : Nat → List Text → Nat → Block → Option (Json × List Text)
  | 0, _, _, _ => none
  | _ + 1, [], _, s => some (s.value, [])
  | fuel + 1, raw :: rest, indent, s =>
      if isBlank raw then parseBlock fuel rest indent s
      else if breaksAt indent s.mode raw then some (s.value, raw :: rest)
      else
        match lineOf (stripText raw) with
        | .item value => parseBlock fuel rest indent (s.addItem (yamlScalar value))
        | .noKey => parseBlock fuel rest indent { s with mode := .block }
        | .entry key text => parseBlock fuel rest indent (s.addEntry key (yamlScalar text))
        | .folded key =>
            parseBlock fuel (foldedLines (indentOf raw) rest).2 indent
              (s.addEntry key (foldedValue (foldedLines (indentOf raw) rest).1))
        | .opener key =>
            match parseBlock fuel rest (indentOf raw + 2) {} with
            | some (nested, left) => parseBlock fuel left indent (s.addEntry key nested)
            | none => none
        | .mappedItem key text =>
            match parseBlock fuel rest (indentOf raw + 2) {} with
            | some (nested, left) =>
                parseBlock fuel left indent (s.addItem (mappedValue key text nested))
            | none => none
        | .keyItem key =>
            match parseBlock fuel rest (indentOf raw + 2) {} with
            | some (nested, left) =>
                parseBlock fuel left indent (s.addItem (.obj [(String.ofList key, nested)]))
            | none => none
        | .emptyItem =>
            match parseBlock fuel rest (indentOf raw + 2) {} with
            | some (nested, left) => parseBlock fuel left indent (s.addItem nested)
            | none => none

/-- `value if isinstance(value, dict) else {}`. -/
def blockDict : Json → Dict
  | .obj d => d
  | _ => []

/-- `_load_yaml_subset`; `none` would be a reader that runs out of fuel. -/
def loadYamlSubset (text : String) : Option Dict :=
  let lines := splitLines text.toList
  if lines.all fun line => (stripText line).isEmpty then some []
  else (parseBlock (lines.length + 1) lines 0 {}).map fun found => blockDict found.1

example : (loadYamlSubset "a:\n    b: x\n").map (fun d => d.map Prod.fst) = some ["a", "b"] := by
  decide

/-! ## Enough fuel -/

theorem foldedLines_suffix (current : Nat) (lines : List Text) :
    (foldedLines current lines).2 <:+ lines := by
  induction lines with
  | nil => exact List.suffix_rfl
  | cons next rest ih =>
    rw [foldedLines]
    split
    · exact ih.trans (List.suffix_cons next rest)
    · split
      · exact List.suffix_rfl
      · exact ih.trans (List.suffix_cons next rest)

variable {lines : List Text} {fuel indent : Nat} {s : Block} {found : Json × List Text}

/-- The lines that are left are the last ones. -/
theorem parseBlock_suffix {v : Json}
    {left : List Text} (h : parseBlock fuel lines indent s = some (v, left)) : left <:+ lines := by
  induction fuel generalizing lines indent s v left with
  | zero => exact nomatch h
  | succ fuel ih =>
    cases lines with
    | nil =>
      rw [parseBlock] at h
      rewrite [← (Prod.mk.inj (Option.some.inj h)).2]
      exact List.suffix_rfl
    | cons raw rest =>
      have hrest : rest <:+ raw :: rest := List.suffix_cons raw rest
      -- what is nested leaves a suffix, and the loop goes on with it
      have hnested : ∀ {deeper : Nat} {next : Json → Block},
          (match parseBlock fuel rest deeper {} with
            | some (nested, left) => parseBlock fuel left indent (next nested)
            | none => none) = some (v, left) → left <:+ raw :: rest := by
        intro deeper next hmatch
        split at hmatch
        · rename_i nested between hfound
          exact ((ih hmatch).trans (ih hfound)).trans hrest
        · exact nomatch hmatch
      rw [parseBlock] at h
      split at h
      · exact (ih h).trans hrest
      · split at h
        · rewrite [← (Prod.mk.inj (Option.some.inj h)).2]
          exact List.suffix_rfl
        · split at h
          · exact (ih h).trans hrest
          · exact (ih h).trans hrest
          · exact (ih h).trans hrest
          · exact ((ih h).trans (foldedLines_suffix _ rest)).trans hrest
          · exact hnested h
          · exact hnested h
          · exact hnested h
          · exact hnested h

/-- With more fuel than lines the loop ends. -/
theorem parseBlock_total (indent : Nat) (s : Block)
    (h : lines.length < fuel) : ∃ found, parseBlock fuel lines indent s = some found := by
  induction fuel generalizing lines indent s with
  | zero => exact absurd h (Nat.not_lt_zero _)
  | succ fuel ih =>
    cases lines with
    | nil => exact ⟨_, rfl⟩
    | cons raw rest =>
      have hrest : rest.length < fuel := Nat.lt_of_succ_lt_succ h
      have hnested : ∀ (deeper : Nat) (next : Json → Block), ∃ found,
          (match parseBlock fuel rest deeper {} with
            | some (nested, left) => parseBlock fuel left indent (next nested)
            | none => none) = some found := by
        intro deeper next
        obtain ⟨⟨nested, left⟩, hfound⟩ := ih deeper {} hrest
        rw [hfound]
        exact ih indent (next nested)
          (Nat.lt_of_le_of_lt (parseBlock_suffix hfound).length_le hrest)
      rw [parseBlock]
      split
      · exact ih indent s hrest
      · split
        · exact ⟨_, rfl⟩
        · split
          · exact ih indent _ hrest
          · exact ih indent _ hrest
          · exact ih indent _ hrest
          · exact ih indent _
              (Nat.lt_of_le_of_lt (foldedLines_suffix _ rest).length_le hrest)
          · exact hnested _ _
          · exact hnested _ _
          · exact hnested _ _
          · exact hnested _ _

theorem loadYamlSubset_total (text : String) : ∃ d, loadYamlSubset text = some d := by
  rw [loadYamlSubset]
  split
  · exact ⟨[], rfl⟩
  · obtain ⟨found, hfound⟩ :=
      parseBlock_total 0 {} (Nat.lt_succ_self (splitLines text.toList).length)
    rw [hfound]
    exact ⟨_, rfl⟩

/-- More fuel changes nothing. -/
theorem parseBlock_mono (h : parseBlock fuel lines indent s = some found) (more : Nat) :
    parseBlock (fuel + more) lines indent s = some found := by
  induction fuel generalizing lines indent s found with
  | zero => exact nomatch h
  | succ fuel ih =>
    rw [Nat.add_right_comm]
    cases lines with
    | nil =>
      rw [parseBlock] at h ⊢
      exact h
    | cons raw rest =>
      have hnested : ∀ {deeper : Nat} {next : Json → Block},
          (match parseBlock fuel rest deeper {} with
            | some (nested, left) => parseBlock fuel left indent (next nested)
            | none => none) = some found →
          (match parseBlock (fuel + more) rest deeper {} with
            | some (nested, left) => parseBlock (fuel + more) left indent (next nested)
            | none => none) = some found := by
        intro deeper next hmatch
        split at hmatch
        · rename_i nested between hfound
          rw [ih hfound]
          exact ih hmatch
        · exact nomatch hmatch
      rw [parseBlock] at h ⊢
      by_cases hblank : isBlank raw = true
      · rw [if_pos hblank] at h ⊢
        exact ih h
      · rw [if_neg hblank] at h ⊢
        by_cases hbreak : breaksAt indent s.mode raw = true
        · rw [if_pos hbreak] at h ⊢
          exact h
        · rw [if_neg hbreak] at h ⊢
          cases hline : lineOf (stripText raw) with
          | item value => rw [hline] at h; exact ih h
          | noKey => rw [hline] at h; exact ih h
          | entry key text => rw [hline] at h; exact ih h
          | folded key => rw [hline] at h; exact ih h
          | opener key => rw [hline] at h; exact hnested h
          | mappedItem key text => rw [hline] at h; exact hnested h
          | keyItem key => rw [hline] at h; exact hnested h
          | emptyItem => rw [hline] at h; exact hnested h

/-! ## The reader without the fuel -/

/-- From `s` the loop over `lines` returns what is found, with some fuel. -/
def Parses (lines : List Text) (indent : Nat) (s : Block) (found : Json × List Text) : Prop :=
  ∃ fuel, parseBlock fuel lines indent s = some found

theorem Parses.unique {found' : Json × List Text} (h : Parses lines indent s found)
    (h' : Parses lines indent s found') : found = found' := by
  obtain ⟨fuel, h⟩ := h
  obtain ⟨fuel', h'⟩ := h'
  have hmore := parseBlock_mono h fuel'
  rw [Nat.add_comm, parseBlock_mono h' fuel] at hmore
  exact (Option.some.inj hmore).symm

/-- What `_load_yaml_subset` returns for lines that say something. -/
theorem loadYamlSubset_of_parses {text : String}
    (hfull : ∃ line ∈ splitLines text.toList, stripText line ≠ [])
    (h : Parses (splitLines text.toList) 0 {} found) :
    loadYamlSubset text = some (blockDict found.1) := by
  have hany : ¬ (splitLines text.toList).all (fun line => (stripText line).isEmpty) = true := by
    intro hall
    obtain ⟨line, hline, hne⟩ := hfull
    exact hne (List.isEmpty_iff.mp (List.all_eq_true.mp hall line hline))
  obtain ⟨found', hfound⟩ :=
    parseBlock_total 0 {} (Nat.lt_succ_self (splitLines text.toList).length)
  have hsame : found' = found := Parses.unique ⟨_, hfound⟩ h
  rw [loadYamlSubset]
  simp only [if_neg hany]
  rw [hfound, hsame]
  rfl

section Steps

variable {raw : Text} {rest left : List Text} {indent : Nat} {s : Block} {nested : Json}
  {key text : Text} {found : Json × List Text}

theorem parses_nil : Parses [] indent s (s.value, []) := ⟨1, rfl⟩

/-- A line that is not expected ends the loop. -/
theorem parses_break (hfull : isBlank raw = false) (h : breaksAt indent s.mode raw = true) :
    Parses (raw :: rest) indent s (s.value, raw :: rest) := by
  refine ⟨1, ?_⟩
  rw [parseBlock, if_neg (Bool.eq_false_iff.mp hfull), if_pos h]

theorem parses_entry (hfull : isBlank raw = false) (hbreak : breaksAt indent s.mode raw = false)
    (hline : lineOf (stripText raw) = .entry key text)
    (h : Parses rest indent (s.addEntry key (yamlScalar text)) found) :
    Parses (raw :: rest) indent s found := by
  obtain ⟨fuel, h⟩ := h
  refine ⟨fuel + 1, ?_⟩
  rw [parseBlock, if_neg (Bool.eq_false_iff.mp hfull), if_neg (Bool.eq_false_iff.mp hbreak), hline]
  exact h

theorem parses_item {value : Text} (hfull : isBlank raw = false)
    (hbreak : breaksAt indent s.mode raw = false) (hline : lineOf (stripText raw) = .item value)
    (h : Parses rest indent (s.addItem (yamlScalar value)) found) :
    Parses (raw :: rest) indent s found := by
  obtain ⟨fuel, h⟩ := h
  refine ⟨fuel + 1, ?_⟩
  rw [parseBlock, if_neg (Bool.eq_false_iff.mp hfull), if_neg (Bool.eq_false_iff.mp hbreak), hline]
  exact h

/-- Two loops after another, with fuel for both. -/
theorem parses_nested {deeper : Nat} (next : Json → Block)
    (hnested : Parses rest deeper {} (nested, left)) (h : Parses left indent (next nested) found) :
    ∃ fuel, (match parseBlock fuel rest deeper {} with
      | some (nested, left) => parseBlock fuel left indent (next nested)
      | none => none) = some found := by
  obtain ⟨fuel, hnested⟩ := hnested
  obtain ⟨fuel', h⟩ := h
  refine ⟨fuel + fuel', ?_⟩
  rw [parseBlock_mono hnested fuel']
  show parseBlock (fuel + fuel') left indent (next nested) = some found
  rw [Nat.add_comm, parseBlock_mono h fuel]

theorem parses_opener (hfull : isBlank raw = false) (hbreak : breaksAt indent s.mode raw = false)
    (hline : lineOf (stripText raw) = .opener key)
    (hnested : Parses rest (indentOf raw + 2) {} (nested, left))
    (h : Parses left indent (s.addEntry key nested) found) :
    Parses (raw :: rest) indent s found := by
  obtain ⟨fuel, hmatch⟩ := parses_nested (fun nested => s.addEntry key nested) hnested h
  refine ⟨fuel + 1, ?_⟩
  rw [parseBlock, if_neg (Bool.eq_false_iff.mp hfull), if_neg (Bool.eq_false_iff.mp hbreak), hline]
  exact hmatch

theorem parses_mappedItem (hfull : isBlank raw = false)
    (hbreak : breaksAt indent s.mode raw = false)
    (hline : lineOf (stripText raw) = .mappedItem key text)
    (hnested : Parses rest (indentOf raw + 2) {} (nested, left))
    (h : Parses left indent (s.addItem (mappedValue key text nested)) found) :
    Parses (raw :: rest) indent s found := by
  obtain ⟨fuel, hmatch⟩ :=
    parses_nested (fun nested => s.addItem (mappedValue key text nested)) hnested h
  refine ⟨fuel + 1, ?_⟩
  rw [parseBlock, if_neg (Bool.eq_false_iff.mp hfull), if_neg (Bool.eq_false_iff.mp hbreak), hline]
  exact hmatch

end Steps

end KeyholeSubset
