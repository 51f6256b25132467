import Mathlib.Data.List.Infix

/-!
# Shell patterns

`fnmatch.fnmatch` on a POSIX system: a pattern is translated to pieces, and the pieces
are matched against the whole of a text.

  - `tokens`: the pieces of a pattern, with the sets in brackets as `fnmatch.translate`
    reads them, its treatment of empty ranges included.
  - `matchTokens`: a text against pieces; a star stands for any text, slashes included.
  - `fnmatch_map`: a pattern without sets goes on matching a text whose characters are
    renamed, where every character the pattern spells out keeps its place.
  - `fnmatch_extend`: a pattern that ends in a star goes on matching a longer text. -/

namespace ShellPattern

abbrev Text := List Char

/-- What a set holds: a character, or the characters between two. -/
inductive Item
  | one (c : Char)
  | range (lo hi : Char)
  deriving DecidableEq, Repr

/-- A piece of a pattern. -/
inductive Token
  | star
  | any
  | lit (c : Char)
  | set (negated : Bool) (items : List Item)
  | never
  deriving DecidableEq, Repr

/-! ## Sets in brackets -/

/-- `pat.find('-', k, j)`: what stands before the first hyphen from position `k` on, and
    what stands after it. -/
def cutHyphen : Nat → Text → Option (Text × Text)
  | _, [] => none
  | 0, c :: rest =>
      if c = '-' then some ([], rest) else (cutHyphen 0 rest).map fun p => (c :: p.1, p.2)
  | k + 1, c :: rest => (cutHyphen k rest).map fun p => (c :: p.1, p.2)

/-- The `chunks` between the hyphens that make ranges; a hyphen at the very end belongs to
    the last of them. -/
def chunks : Nat → Nat → Text → List Text
  | 0, _, body => [body]
  | fuel + 1, k, body =>
      match cutHyphen k body with
      | none => [body]
      | some (chunk, []) => [chunk ++ ['-']]
      | some (chunk, c :: rest) => chunk :: chunks fuel 2 (c :: rest)

/-- `chunks[k-1][-1] > chunks[k][0]`. -/
def emptyRange (left right : Text) : Bool :=
  match left.getLast?, right.head? with
  | some lo, some hi => decide (hi < lo)
  | _, _ => false

/-- "Remove empty ranges -- invalid in RE", from the last to the first. -/
def dropEmpty : List Text → List Text
  | [] => []
  | chunk :: rest =>
      match dropEmpty rest with
      | [] => [chunk]
      | next :: others =>
          if emptyRange chunk next then (chunk.dropLast ++ next.drop 1) :: others
          else chunk :: next :: others

/-- The chunks joined by hyphens that make ranges (`none`); their own hyphens are escaped. -/
def joinChunks : List Text → List (Option Char)
  | [] => []
  | [chunk] => chunk.map some
  | chunk :: next :: rest => chunk.map some ++ none :: joinChunks (next :: rest)

/-- What the regular expression makes of the joined chunks. -/
def readItems : List (Option Char) → List Item
  | [] => []
  | some lo :: none :: some hi :: rest => .range lo hi :: readItems rest
  | some c :: rest => .one c :: readItems rest
  | none :: rest => .one '-' :: readItems rest

/-- The piece for what stands between the brackets. -/
def setToken (body : Text) : Token :=
  let start := if body.head? = some '!' then 2 else 1
  match joinChunks (dropEmpty (chunks body.length start body)) with
  | [] => .never
  | [some '!'] => .any
  | some '!' :: stuff => .set true (readItems stuff)
  | stuff => .set false (readItems stuff)

/-- What stands between an opening bracket and the one that closes it, when one does: a
    closing bracket that comes first, or right after `!`, is a member of the set. -/
def setBody (rest : Text) : Option Text :=
  let bang := if rest.head? = some '!' then 1 else 0
  let lead := if (rest.drop bang).head? = some ']' then bang + 1 else bang
  let body := rest.take lead ++ (rest.drop lead).takeWhile fun c => c != ']'
  if body.length < rest.length then some body else none

/-! ## Matching -/

/-- `fnmatch.translate`, with so many characters to skip: those of a set already read. -/
def tokens : Nat → Text → List Token
  | _, [] => []
  | skip + 1, _ :: rest => tokens skip rest
  | 0, c :: rest =>
      if c = '*' then .star :: tokens 0 rest
      else if c = '?' then .any :: tokens 0 rest
      else if c = '[' then
        match setBody rest with
        | some body => setToken body :: tokens (body.length + 1) rest
        | none => .lit '[' :: tokens 0 rest
      else .lit c :: tokens 0 rest

def Item.holds (c : Char) : Item → Bool
  | .one d => c == d
  | .range lo hi => decide (lo ≤ c) && decide (c ≤ hi)

/-- A piece that stands for one character. -/
def Token.accepts (c : Char) : Token → Bool
  | .star => false
  | .any => true
  | .lit d => c == d
  | .set negated items => items.any (Item.holds c) != negated
  | .never => false

/-- `re.fullmatch`: a star takes any beginning of what is left. -/
def matchTokens : List Token → Text → Bool
  | [], text => text.isEmpty
  | .star :: rest, text => text.tails.any (matchTokens rest)
  | _ :: _, [] => false
  | token :: rest, c :: text => token.accepts c && matchTokens rest text

/-- `fnmatch.fnmatch(name, pat)`. -/
def fnmatch (name pat : Text) : Bool := matchTokens (tokens 0 pat) name

example : fnmatch "a/b.py".toList "*.py".toList = true := by decide
example : fnmatch "x3".toList "x[!a-c-]".toList = true := by decide

/-! ## Rules of matching -/

theorem matchTokens_nil (text : Text) : matchTokens [] text = true ↔ text = [] := by
  rw [matchTokens]
  exact List.isEmpty_iff

variable {text pat name : Text} {c : Char} {f : Char → Char} {ts : List Token}

/-- A star takes some beginning of the text. -/
theorem matchTokens_star {rest : List Token} :
    matchTokens (.star :: rest) text = true ↔
      ∃ taken left, text = taken ++ left ∧ matchTokens rest left = true := by
  rw [matchTokens, List.any_eq_true]
  constructor
  · intro ⟨left, hmem, hleft⟩
    obtain ⟨taken, htaken⟩ := (List.mem_tails _ _).mp hmem
    exact ⟨taken, left, htaken.symm, hleft⟩
  · intro ⟨taken, left, htext, hleft⟩
    exact ⟨left, (List.mem_tails _ _).mpr ⟨taken, htext.symm⟩, hleft⟩

/-- Any other piece takes one character. -/
theorem matchTokens_cons {token : Token} (hstar : token ≠ .star) {rest : List Token}
    :
    matchTokens (token :: rest) text = true ↔
      ∃ c left, text = c :: left ∧ token.accepts c = true ∧ matchTokens rest left = true := by
  cases text with
  | nil =>
    constructor
    · intro h
      cases token with
      | star => exact absurd rfl hstar
      | any => exact nomatch h
      | lit d => exact nomatch h
      | set negated items => exact nomatch h
      | never => exact nomatch h
    · intro ⟨c, left, htext, _⟩
      exact nomatch htext
  | cons c left =>
    have hstep : matchTokens (token :: rest) (c :: left) =
        (token.accepts c && matchTokens rest left) := by
      cases token with
      | star => exact absurd rfl hstar
      | any => rfl
      | lit d => rfl
      | set negated items => rfl
      | never => rfl
    rw [hstep, Bool.and_eq_true]
    constructor
    · intro ⟨haccepts, hrest⟩
      exact ⟨c, left, rfl, haccepts, hrest⟩
    · intro ⟨d, others, htext, haccepts, hrest⟩
      obtain ⟨rfl, rfl⟩ := List.cons.inj htext
      exact ⟨haccepts, hrest⟩

/-- A character a pattern spells out occurs in what it matches. -/
theorem mem_of_lit (hmem : .lit c ∈ ts) (h : matchTokens ts text = true) : c ∈ text := by
  induction ts generalizing text with
  | nil => exact nomatch hmem
  | cons token rest ih =>
    by_cases hstar : token = .star
    · subst hstar
      obtain ⟨taken, left, rfl, hleft⟩ := matchTokens_star.mp h
      have hrest : .lit c ∈ rest := by
        rcases List.mem_cons.mp hmem with heq | hrest
        · exact nomatch heq
        · exact hrest
      exact List.mem_append_right taken (ih hrest hleft)
    · obtain ⟨d, left, rfl, haccepts, hleft⟩ := (matchTokens_cons hstar).mp h
      rcases List.mem_cons.mp hmem with heq | hrest
      · rw [← heq] at haccepts
        rw [beq_iff_eq.mp haccepts]
        exact List.mem_cons_self
      · exact List.mem_cons_of_mem d (ih hrest hleft)

/-- Pieces that end in a star go on matching when the text goes on. -/
theorem matchTokens_extend (more : Text) (h : matchTokens (ts ++ [.star]) text = true) :
    matchTokens (ts ++ [.star]) (text ++ more) = true := by
  induction ts generalizing text with
  | nil =>
    refine matchTokens_star.mpr ⟨text ++ more, [], (List.append_nil _).symm, ?_⟩
    exact (matchTokens_nil []).mpr rfl
  | cons token rest ih =>
    by_cases hstar : token = .star
    · subst hstar
      obtain ⟨taken, left, rfl, hleft⟩ := matchTokens_star.mp h
      exact matchTokens_star.mpr ⟨taken, left ++ more, List.append_assoc _ _ _, ih hleft⟩
    · obtain ⟨c, left, rfl, haccepts, hleft⟩ := (matchTokens_cons hstar).mp h
      exact (matchTokens_cons hstar).mpr ⟨c, left ++ more, rfl, haccepts, ih hleft⟩

/-- A piece that a renaming of characters does not upset. -/
def Token.KeptBy (f : Char → Char) : Token → Prop
  | .star => True
  | .any => True
  | .lit c => f c = c
  | .set _ _ => False
  | .never => True

theorem accepts_kept {token : Token} (hkept : token.KeptBy f)
    (h : token.accepts c = true) : token.accepts (f c) = true := by
  cases token with
  | star => exact h
  | any => rfl
  | lit d =>
    have hc : c = d := beq_iff_eq.mp h
    have hd : f d = d := hkept
    show (f c == d) = true
    rw [hc, hd]
    exact beq_self_eq_true d
  | set negated items => exact hkept.elim
  | never => exact h

theorem matchTokens_map (hkept : ∀ token ∈ ts, token.KeptBy f) (h : matchTokens ts text = true) :
    matchTokens ts (text.map f) = true := by
  induction ts generalizing text with
  | nil =>
    rw [(matchTokens_nil text).mp h]
    rfl
  | cons token rest ih =>
    have hrest : ∀ other ∈ rest, other.KeptBy f := fun other hother =>
      hkept other (List.mem_cons_of_mem token hother)
    by_cases hstar : token = .star
    · subst hstar
      obtain ⟨taken, left, rfl, hleft⟩ := matchTokens_star.mp h
      exact matchTokens_star.mpr ⟨taken.map f, left.map f, List.map_append, ih hrest hleft⟩
    · obtain ⟨c, left, rfl, haccepts, hleft⟩ := (matchTokens_cons hstar).mp h
      exact (matchTokens_cons hstar).mpr ⟨f c, left.map f, rfl,
        accepts_kept (hkept token List.mem_cons_self) haccepts, ih hrest hleft⟩

/-! ## Patterns without sets -/

/-- The piece of a character that opens no set. -/
def plainToken (c : Char) : Token := if c = '*' then .star else if c = '?' then .any else .lit c

theorem tokens_of_no_bracket (h : '[' ∉ pat) : tokens 0 pat = pat.map plainToken := by
  induction pat with
  | nil => rfl
  | cons c rest ih =>
    have hc : c ≠ '[' := fun heq => h (heq ▸ List.mem_cons_self)
    have hrest := ih fun hmem => h (List.mem_cons_of_mem c hmem)
    rw [tokens, hrest, List.map_cons, plainToken]
    by_cases hstar : c = '*'
    · rw [if_pos hstar, if_pos hstar]
    · rw [if_neg hstar, if_neg hstar]
      by_cases hany : c = '?'
      · rw [if_pos hany, if_pos hany]
      · rw [if_neg hany, if_neg hany, if_neg hc]

theorem plainToken_lit (hstar : c ≠ '*') (hany : c ≠ '?') : plainToken c = .lit c := by
  rw [plainToken, if_neg hstar, if_neg hany]

theorem plainToken_kept (h : f c = c) : (plainToken c).KeptBy f := by
  by_cases hstar : c = '*'
  · rw [plainToken, if_pos hstar]
    exact trivial
  · by_cases hany : c = '?'
    · rw [plainToken, if_neg hstar, if_pos hany]
      exact trivial
    · rw [plainToken_lit hstar hany]
      exact h

/-- A pattern without sets survives a renaming that keeps its characters. -/
theorem fnmatch_map (hset : '[' ∉ pat) (hkept : ∀ c ∈ pat, f c = c) (h : fnmatch name pat = true) :
    fnmatch (name.map f) pat = true := by
  rw [fnmatch, tokens_of_no_bracket hset] at h ⊢
  refine matchTokens_map ?_ h
  intro token hmem
  obtain ⟨c, hc, rfl⟩ := List.mem_map.mp hmem
  exact plainToken_kept (hkept c hc)

/-- A pattern without sets that ends in a star matches every longer text too. -/
theorem fnmatch_extend (hset : '[' ∉ pat) (hlast : pat.getLast? = some '*')
    (more : Text) (h : fnmatch name pat = true) : fnmatch (name ++ more) pat = true := by
  obtain ⟨front, rfl⟩ : ∃ front, pat = front ++ ['*'] :=
    List.getLast?_eq_some_iff.mp hlast
  rw [fnmatch, tokens_of_no_bracket hset, List.map_append] at h ⊢
  exact matchTokens_extend more h

/-- A character that a pattern without sets spells out is in the text it matches. -/
theorem mem_of_fnmatch (hset : '[' ∉ pat) (hc : c ∈ pat)
    (hstar : c ≠ '*') (hany : c ≠ '?') (h : fnmatch name pat = true) : c ∈ name := by
  rw [fnmatch, tokens_of_no_bracket hset] at h
  refine mem_of_lit ?_ h
  rw [← plainToken_lit hstar hany]
  exact List.mem_map_of_mem hc

/-- A pattern of plain characters only matches itself. -/
theorem eq_of_fnmatch (hset : '[' ∉ pat) (hstar : '*' ∉ pat) (hany : '?' ∉ pat)
    (h : fnmatch name pat = true) : name = pat := by
  rw [fnmatch, tokens_of_no_bracket hset] at h
  clear hset
  induction pat generalizing name with
  | nil => exact (matchTokens_nil name).mp h
  | cons c rest ih =>
    have hc := plainToken_lit (fun heq => hstar (heq ▸ List.mem_cons_self))
      (fun heq => hany (heq ▸ List.mem_cons_self)) (c := c)
    rw [List.map_cons, hc] at h
    have hlit : Token.lit c ≠ .star := nofun
    obtain ⟨d, left, rfl, haccepts, hleft⟩ := (matchTokens_cons hlit).mp h
    rw [beq_iff_eq.mp haccepts, ih (fun hmem => hstar (List.mem_cons_of_mem c hmem))
      (fun hmem => hany (List.mem_cons_of_mem c hmem)) hleft]

end ShellPattern
