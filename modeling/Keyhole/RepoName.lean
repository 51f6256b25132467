import Keyhole.YamlDocument
import Keyhole.CapabilityNamespace

/-!
# The name a governed run gives its repository

`load_repo_name` reads `keyhole.yaml` before a run.  It takes the name of the `repo`
mapping; for everything else it falls back on the first line of the text that starts
with `name:`, wherever it stands, and last on the directory's name.

* `splitLines` — Python's `splitlines`;
* `scanName` — the fallback on the text, `loadRepoName` — the reader;
* `scanName_unbroken` — a scanned name never has a line break. -/

namespace KeyholeRepoName

open KeyholeJson (isSpace)
open KeyholeYaml KeyholeNamespace

/-- The characters `splitlines` breaks at. -/
def isLineBreak (c : Char) : Bool :=
  ['\n', '\r', '\x0b', '\x0c', '\x1c', '\x1d', '\x1e', '\u0085', '\u2028', '\u2029'].contains c

/-- A character in front of the first line. -/
def consLine (c : Char) : List Text → List Text
  | [] => [[c]]
  | line :: lines => (c :: line) :: lines

/-- `text.splitlines()`. -/
def splitLines : Text → List Text
  | [] => []
  | '\r' :: '\n' :: rest => [] :: splitLines rest
  | c :: rest =>
      if isLineBreak c then [] :: splitLines rest else consLine c (splitLines rest)

/-- What follows `name:` on a line that starts so. -/
def namedLine (line : Text) : Option Text :=
  if ['n', 'a', 'm', 'e', ':'].isPrefixOf (stripText line) then
    some (stripText ((stripText line).drop 5))
  else none

/-- The first line of a text that names something. -/
def scanName (content : String) : Option String :=
  ((splitLines content.toList).findSome? namedLine).map String.ofList

/-- The name found on the text, or the directory's. -/
def fallbackName (dirName content : String) : Yaml := .str ((scanName content).getD dirName)

/-- `load_repo_name`, in a directory called `dirName`. -/
def loadRepoName (yaml : Option Loader) (dirName : String) : FileText → Yaml
  | .missing => .null
  | .unreadable _ => .str dirName
  | .text content =>
      match (yaml.map fun safeLoad => safeLoad content : Option (Except String Yaml)) with
      | some (.ok (.map data)) =>
          match Fields.getOr data "repo" (.map []) with
          | .map repo => Fields.get repo "name"
          | _ => fallbackName dirName content
      | _ => fallbackName dirName content

/-! ## Lines -/

/-- No character of the text breaks a line. -/
def Unbroken (text : Text) : Prop := ∀ c ∈ text, isLineBreak c = false

instance (text : Text) : Decidable (Unbroken text) :=
  List.decidableBAll (fun c => isLineBreak c = false) text

theorem Unbroken.cons {c : Char} {text : Text} (hc : isLineBreak c = false) (h : Unbroken text) :
    Unbroken (c :: text) := by
  intro d hd
  rcases List.mem_cons.mp hd with rfl | hd
  · exact hc
  · exact h d hd

theorem Unbroken.of_subset {text part : Text} (h : Unbroken text) (hsub : part ⊆ text) :
    Unbroken part :=
  fun c hc => h c (hsub hc)

theorem consLine_unbroken {c : Char} {lines : List Text} (hc : isLineBreak c = false)
    (h : ∀ line ∈ lines, Unbroken line) : ∀ line ∈ consLine c lines, Unbroken line := by
  intro line hline
  cases lines with
  | nil =>
    cases List.mem_singleton.mp hline
    exact Unbroken.cons hc nofun
  | cons first lines =>
    rcases List.mem_cons.mp hline with rfl | hline
    · exact Unbroken.cons hc (h first List.mem_cons_self)
    · exact h line (List.mem_cons_of_mem _ hline)

theorem splitLines_unbroken (text : Text) : ∀ line ∈ splitLines text, Unbroken line := by
  induction text using splitLines.induct with
  | case1 =>
    intro line hline
    exact nomatch hline
  | case2 rest ih =>
    intro line hline
    rw [splitLines] at hline
    rcases List.mem_cons.mp hline with rfl | hline
    · exact nofun
    · exact ih line hline
  | case3 c rest hcrlf hbreak ih =>
    intro line hline
    rw [splitLines.eq_3 c rest hcrlf, if_pos hbreak] at hline
    rcases List.mem_cons.mp hline with rfl | hline
    · exact nofun
    · exact ih line hline
  | case4 c rest hcrlf hbreak ih =>
    intro line hline
    rw [splitLines.eq_3 c rest hcrlf, if_neg hbreak] at hline
    have hc : isLineBreak c = false := Bool.eq_false_iff.mpr hbreak
    exact consLine_unbroken hc ih line hline

theorem splitLines_cons {c : Char} {rest : Text} (hc : isLineBreak c = false) :
    splitLines (c :: rest) = consLine c (splitLines rest) := by
  have hcrlf : ∀ rest', c = '\r' → rest = '\n' :: rest' → False := by
    rintro rest' rfl -
    exact nomatch hc
  rw [splitLines.eq_3 c rest hcrlf, if_neg (by rw [hc]; exact Bool.false_ne_true)]

/-- A line that ends in a newline is the first one. -/
theorem splitLines_line {line : Text} (h : Unbroken line) (rest : Text) :
    splitLines (line ++ '\n' :: rest) = line :: splitLines rest := by
  induction line with
  | nil => rfl
  | cons c line ih =>
    have hrest : Unbroken line := h.of_subset (List.subset_cons_self c line)
    rw [List.cons_append, splitLines_cons (h c List.mem_cons_self), ih hrest]
    rfl

/-- The first line of a text that starts with an unbroken part starts with it too. -/
theorem splitLines_start {start : Text} (h : Unbroken start) (hne : start ≠ []) (rest : Text) :
    ∃ more lines, splitLines (start ++ rest) = (start ++ more) :: lines := by
  induction start with
  | nil => exact absurd rfl hne
  | cons c start ih =>
    rw [List.cons_append, splitLines_cons (h c List.mem_cons_self)]
    cases start with
    | nil =>
      cases hlines : splitLines ([] ++ rest) with
      | nil => exact ⟨[], [], rfl⟩
      | cons line lines => exact ⟨line, lines, rfl⟩
    | cons d start =>
      have hrest : Unbroken (d :: start) := h.of_subset (List.subset_cons_self c _)
      obtain ⟨more, lines, hlines⟩ := ih hrest (List.cons_ne_nil d start)
      rw [hlines]
      exact ⟨more, lines, rfl⟩

/-! ## Stripped lines -/

theorem stripText_subset (text : Text) : stripText text ⊆ text := by
  intro c hc
  rw [stripText, List.mem_reverse] at hc
  have hmem := (List.dropWhile_sublist isSpace).subset hc
  exact (List.dropWhile_sublist isSpace).subset (List.mem_reverse.mp hmem)

/-- Stripping keeps a start that is not blank at its ends. -/
theorem stripText_start {start : Text} (hfirst : ∀ c ∈ start.head?, isSpace c = false)
    (hlast : ∀ c ∈ start.getLast?, isSpace c = false) (hne : start ≠ []) (rest : Text) :
    ∃ more, stripText (start ++ rest) = start ++ more := by
  obtain ⟨c, tail, rfl⟩ := List.exists_cons_of_ne_nil hne
  have hdrop : ((c :: tail) ++ rest).dropWhile isSpace = (c :: tail) ++ rest := by
    rw [List.cons_append, List.dropWhile_cons_of_neg]
    rw [hfirst c rfl]
    exact Bool.false_ne_true
  have hback : (c :: tail).reverse.dropWhile isSpace = (c :: tail).reverse := by
    cases hrev : (c :: tail).reverse with
    | nil => rfl
    | cons d back =>
      have hd : (c :: tail).getLast? = some d := by
        rw [← List.head?_reverse, hrev]
        rfl
      rw [List.dropWhile_cons_of_neg]
      rw [hlast d hd]
      exact Bool.false_ne_true
  rw [stripText, hdrop, List.reverse_append, List.dropWhile_append]
  by_cases hblank : (rest.reverse.dropWhile isSpace).isEmpty = true
  · rw [if_pos hblank, hback, List.reverse_reverse]
    exact ⟨[], (List.append_nil _).symm⟩
  · rw [if_neg hblank, List.reverse_append, List.reverse_reverse]
    exact ⟨_, rfl⟩

theorem namedLine_unbroken {line name : Text} (h : namedLine line = some name)
    (hline : Unbroken line) : Unbroken name := by
  rw [namedLine] at h
  by_cases hstart : ['n', 'a', 'm', 'e', ':'].isPrefixOf (stripText line) = true
  · rw [if_pos hstart] at h
    cases h
    exact ((hline.of_subset (stripText_subset line)).of_subset (List.drop_subset 5 _)).of_subset
      (stripText_subset _)
  · rw [if_neg hstart] at h
    exact nomatch h

/-- A name found on the text has no line break. -/
theorem scanName_unbroken {content name : String} (h : scanName content = some name) :
    Unbroken name.toList := by
  rw [scanName] at h
  obtain ⟨found, hfound, rfl⟩ := Option.map_eq_some_iff.mp h
  obtain ⟨line, hline, hnamed⟩ := List.exists_of_findSome?_eq_some hfound
  rw [String.toList_ofList]
  exact namedLine_unbroken hnamed (splitLines_unbroken _ line hline)

end KeyholeRepoName
