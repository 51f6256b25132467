import Mathlib.Data.List.TakeWhile
import Mathlib.Tactic.IntervalCases

/-!
# Where a URL leads

The scheme and authority of a URL, split as `urllib.parse.urlsplit` splits it, and the
origin they denote: scheme, host and port.  A URL made by writing text behind an authority
leads to the same origin as long as that text does not begin inside the authority.

* `Parsed`, `urlsplit`: the split;
* `originOf`: the origin an HTTP library connects to, if it connects at all;
* `originOf_append_query`: a query changes no origin;
* `originOf_base_append`: what text behind `scheme://netloc` does to the origin.

Nothing here mentions a particular program. -/

namespace UrlAuthority

/-- Text of a URL. -/
abbrev Text := List Char

/-! ## Splitting -/

/-- The characters `urlsplit` removes everywhere. -/
def isUnsafe (c : Char) : Bool := c == '\t' || c == '\r' || c == '\n'

/-- The characters `urlsplit` strips from the front: controls and space. -/
def isLeading (c : Char) : Bool := decide (c.toNat ≤ 0x20)

/-- The characters that end an authority. -/
def isDelim (c : Char) : Bool := c == '/' || c == '?' || c == '#'

/-- The characters of a scheme. -/
def isSchemeChar (c : Char) : Bool :=
  c.isAlpha || c.isDigit || c == '+' || c == '-' || c == '.'

/-- The text `urlsplit` goes on with. -/
def cleaned (url : Text) : Text := (url.dropWhile isLeading).filter (fun c => !isUnsafe c)

/-- Is the text before the first `:` a scheme? -/
def isScheme (head : Text) : Bool :=
  match head with
  | [] => false
  | c :: _ => c.isAlpha && head.all isSchemeChar

/-- The scheme, in lower case, and what follows its `:`. -/
def splitScheme (url : Text) : Text × Text :=
  let head := url.takeWhile (fun c => c != ':')
  match url.dropWhile (fun c => c != ':') with
  | [] => ([], url)
  | _ :: rest => if isScheme head then (head.map Char.toLower, rest) else ([], url)

/-- The authority of what follows the scheme, and the rest. -/
def splitNetloc (rest : Text) : Text × Text :=
  if rest.take 2 = ['/', '/'] then
    ((rest.drop 2).takeWhile (fun c => !isDelim c), (rest.drop 2).dropWhile (fun c => !isDelim c))
  else ([], rest)

/-- The parts of a URL. -/
structure Parsed where
  scheme : Text
  netloc : Text
  path : Text
  query : Text
  fragment : Text
  deriving DecidableEq

/-- `text.split(sep, 1)`, with `""` for a missing second part. -/
def splitOnce (sep : Char) (text : Text) : Text × Text :=
  (text.takeWhile (fun c => c != sep), (text.dropWhile (fun c => c != sep)).drop 1)

variable (badNetloc : Text → Bool)

/-- `urlsplit`; `none` is its `ValueError`, for an authority with unbalanced brackets or
    with characters that normalise to delimiters. -/
def urlsplit (url : Text) : Option Parsed :=
  let (scheme, rest) := splitScheme (cleaned url)
  let (netloc, rest) := splitNetloc rest
  if netloc ≠ [] ∧ badNetloc netloc then none
  else
    let (rest, fragment) := splitOnce '#' rest
    let (path, query) := splitOnce '?' rest
    some ⟨scheme, netloc, path, query, fragment⟩

/-- The scheme and authority of a URL. -/
def authorityOf (url : Text) : Text × Text :=
  let (scheme, rest) := splitScheme (cleaned url)
  (scheme, (splitNetloc rest).1)

/-! ## Origins -/

/-- Scheme, host and port. -/
structure Origin where
  scheme : Text
  host : Text
  port : Nat
  deriving DecidableEq

/-- The text after the last `@`. -/
def afterUserinfo (netloc : Text) : Text :=
  (netloc.reverse.takeWhile (fun c => c != '@')).reverse

/-- The host, and the text after it: a bracketed address, or the text before the first
    `:`. -/
def splitHost (hostinfo : Text) : Text × Text :=
  match hostinfo with
  | '[' :: rest => (rest.takeWhile (fun c => c != ']'), (rest.dropWhile (fun c => c != ']')).drop 1)
  | _ => (hostinfo.takeWhile (fun c => c != ':'), hostinfo.dropWhile (fun c => c != ':'))

/-- The port that `:digits` stands for, the default of the scheme where there are none. -/
def portOf (scheme : Text) (tail : Text) : Option Nat :=
  match tail with
  | [] | [':'] => if scheme = "https".toList then some 443 else some 80
  | ':' :: digits =>
      if digits.all Char.isDigit then
        some (digits.foldl (fun n c => 10 * n + (c.toNat - '0'.toNat)) 0)
      else none
  | _ => none

/-- The origin a scheme and an authority denote; `none` where there is nothing to connect
    to. -/
def originFrom (scheme netloc : Text) : Option Origin :=
  if scheme = "http".toList ∨ scheme = "https".toList then
    if netloc ≠ [] ∧ badNetloc netloc then none
    else
      let (host, tail) := splitHost (afterUserinfo netloc)
      if host = [] then none
      else (portOf scheme tail).map (fun port => ⟨scheme, host.map Char.toLower, port⟩)
  else none

/-- The origin a request for the URL goes to; `none` where the library sends none. -/
def originOf (url : Text) : Option Origin :=
  originFrom badNetloc (authorityOf url).1 (authorityOf url).2

/-- `scheme://netloc` of a URL. -/
def baseOf (url : Text) : Text :=
  (authorityOf url).1 ++ "://".toList ++ (authorityOf url).2

/-- What a text written behind an authority adds to it. -/
def extension (more : Text) : Text :=
  (more.filter (fun c => !isUnsafe c)).takeWhile (fun c => !isDelim c)

/-! ## Lower case -/

theorem toLower_facts (c : Char) :
    c.toLower.toLower = c.toLower ∧ c.toLower.isAlpha = c.isAlpha
      ∧ (c.isAlpha = false → c.toLower = c) := by
  by_cases h : c.val ≥ 'A'.val ∧ c.val ≤ 'Z'.val
  · have hn : 65 ≤ c.toNat ∧ c.toNat ≤ 90 := ⟨h.1, h.2⟩
    rw [← Char.ofNat_toNat c]
    generalize c.toNat = n at hn
    obtain ⟨hlow, hhigh⟩ := hn
    interval_cases n <;> decide
  · have hsame : c.toLower = c := dif_neg h
    rw [hsame, hsame]
    exact ⟨rfl, rfl, fun _ => rfl⟩

theorem isSchemeChar_toLower (c : Char) : isSchemeChar c.toLower = isSchemeChar c := by
  obtain ⟨-, halpha, hother⟩ := toLower_facts c
  cases hc : c.isAlpha with
  | true => simp [isSchemeChar, halpha, hc]
  | false => rw [hother hc]

theorem isScheme_toLower (head : Text) :
    isScheme (head.map Char.toLower) = isScheme head := by
  cases head with
  | nil => rfl
  | cons c rest =>
    show (c.toLower.isAlpha && ((c :: rest).map Char.toLower).all isSchemeChar) = _
    rw [(toLower_facts c).2.1, List.all_map]
    congr 2
    funext d
    exact isSchemeChar_toLower d

/-- Every character of a scheme is a scheme character. -/
theorem schemeChar_of_isScheme {head : Text} (h : isScheme head = true) :
    ∀ c ∈ head, isSchemeChar c = true := by
  cases head with
  | nil => exact nomatch h
  | cons c rest => exact List.all_eq_true.mp (Bool.and_eq_true_iff.mp h).2

/-! ## The split of a longer text -/

/-- A character that is no scheme character and no `:` ends the search for a scheme. -/
theorem splitScheme_append {d : Char} (hscheme : isSchemeChar d = false) (hcolon : d ≠ ':')
    (url more : Text) :
    splitScheme (url ++ d :: more) = ((splitScheme url).1, (splitScheme url).2 ++ d :: more) := by
  unfold splitScheme
  cases hfound : url.dropWhile (fun c => c != ':') with
  | nil =>
    have hall : ∀ c ∈ url, (c != ':') = true := by
      intro c hc
      exact List.dropWhile_eq_nil_iff.mp hfound c hc
    have hnot : ∀ tail, isScheme (url ++ d :: tail) = false := by
      intro tail
      cases h : isScheme (url ++ d :: tail) with
      | false => rfl
      | true =>
        have := schemeChar_of_isScheme h d (by simp)
        rw [hscheme] at this
        exact nomatch this
    have hd : (d != ':') = true := bne_iff_ne.mpr hcolon
    rw [List.dropWhile_append_of_pos hall, List.takeWhile_append_of_pos hall,
      List.dropWhile_cons, if_pos hd, List.takeWhile_cons, if_pos hd]
    cases more.dropWhile (fun c => c != ':') with
    | nil => rfl
    | cons _ rest => simp only [hnot, Bool.false_eq_true, if_false]
  | cons colon rest =>
    have hdrop : (url ++ d :: more).dropWhile (fun c => c != ':')
        = colon :: (rest ++ d :: more) := by
      rw [List.dropWhile_append, hfound]
      rfl
    have htake : (url ++ d :: more).takeWhile (fun c => c != ':')
        = url.takeWhile (fun c => c != ':') := by
      rw [List.takeWhile_append, if_neg]
      intro hlength
      have hsame := List.takeWhile_append_dropWhile (p := fun c => c != ':') (l := url)
      have := congrArg List.length hsame
      rw [List.length_append, hlength, hfound] at this
      simp at this
    rw [hdrop, htake]
    by_cases h : isScheme (url.takeWhile (fun c => c != ':')) = true
    · simp only [if_pos h]
    · simp only [if_neg h]

/-- An authority ends where it ended, if a delimiter follows. -/
theorem takeWhile_append_delim {d : Char} (hdelim : isDelim d = true) (text more : Text) :
    (text ++ d :: more).takeWhile (fun c => !isDelim c) = text.takeWhile (fun c => !isDelim c) := by
  have hd : ¬ (!isDelim d) = true := by rw [hdelim]; simp
  rw [List.takeWhile_append]
  by_cases hlength : (text.takeWhile (fun c => !isDelim c)).length = text.length
  · rw [if_pos hlength, List.takeWhile_cons, if_neg hd, List.append_nil]
    exact ((List.takeWhile_prefix (fun c => !isDelim c)).eq_of_length hlength).symm
  · rw [if_neg hlength]

/-- A query does not reach the authority. -/
theorem splitNetloc_append_query (rest query : Text) :
    (splitNetloc (rest ++ '?' :: query)).1 = (splitNetloc rest).1 := by
  unfold splitNetloc
  match rest with
  | [] => rfl
  | [c] =>
    rw [if_neg (by simp), if_neg (by simp)]
  | c :: c' :: tail =>
    by_cases h : [c, c'] = ['/', '/']
    · rw [if_pos (show (c :: c' :: tail).take 2 = _ from h),
        if_pos (show ((c :: c' :: tail) ++ '?' :: query).take 2 = _ from h)]
      exact takeWhile_append_delim (by decide) tail query
    · rw [if_neg (show ¬ (c :: c' :: tail).take 2 = _ from h),
        if_neg (show ¬ ((c :: c' :: tail) ++ '?' :: query).take 2 = _ from h)]

/-- The text `urlsplit` goes on with, for a URL with more text behind it. -/
theorem cleaned_append {d : Char} (hleading : isLeading d = false) (hsafe : isUnsafe d = false)
    (url more : Text) :
    cleaned (url ++ d :: more) = cleaned url ++ d :: more.filter (fun c => !isUnsafe c) := by
  unfold cleaned
  rw [List.dropWhile_append]
  cases hurl : url.dropWhile isLeading with
  | nil =>
    rw [if_pos List.isEmpty_nil, List.dropWhile_cons, if_neg (by rw [hleading]; simp),
      List.filter_cons, if_pos (by rw [hsafe]; rfl)]
    rfl
  | cons c rest =>
    have hkept : (d :: more).filter (fun c => !isUnsafe c)
        = d :: more.filter (fun c => !isUnsafe c) := by
      rw [List.filter_cons, if_pos (by rw [hsafe]; rfl)]
    rw [if_neg (by simp), List.filter_append, hkept]

/-- A query changes no authority. -/
theorem authorityOf_append_query (url query : Text) :
    authorityOf (url ++ '?' :: query) = authorityOf url := by
  show ((splitScheme (cleaned (url ++ '?' :: query))).1,
    (splitNetloc (splitScheme (cleaned (url ++ '?' :: query))).2).1) = _
  rw [cleaned_append (by decide) (by decide), splitScheme_append (by decide) (by decide),
    splitNetloc_append_query]
  rfl

/-- A query changes no origin. -/
theorem originOf_append_query (url query : Text) :
    originOf badNetloc (url ++ '?' :: query) = originOf badNetloc url := by
  unfold originOf
  rw [authorityOf_append_query]

/-! ## Text behind an authority -/

/-- The scheme that is split off is empty, or a scheme in lower case. -/
theorem splitScheme_scheme (url : Text) :
    (splitScheme url).1 = []
      ∨ isScheme (splitScheme url).1 = true
        ∧ (splitScheme url).1.map Char.toLower = (splitScheme url).1 := by
  unfold splitScheme
  cases url.dropWhile (fun c => c != ':') with
  | nil => exact .inl rfl
  | cons colon rest =>
    by_cases h : isScheme (url.takeWhile (fun c => c != ':')) = true
    · simp only [if_pos h]
      refine .inr ⟨(isScheme_toLower _).trans h, ?_⟩
      rw [List.map_map]
      exact List.map_congr_left fun c _ => (toLower_facts c).1
    · simp only [if_neg h]
      exact .inl trivial

/-- A scheme character is no `:`, no control character, and is kept by the cleaning. -/
theorem schemeChar_facts {c : Char} (h : isSchemeChar c = true) :
    (c != ':') = true ∧ isUnsafe c = false := by
  constructor
  · refine bne_iff_ne.mpr ?_
    rintro rfl
    exact absurd h (by decide)
  · cases hc : isUnsafe c with
    | false => rfl
    | true =>
      unfold isUnsafe at hc
      simp only [Bool.or_eq_true, beq_iff_eq] at hc
      rcases hc with (rfl | rfl) | rfl
      · exact absurd h (by decide)
      · exact absurd h (by decide)
      · exact absurd h (by decide)

/-- A letter is not stripped from the front. -/
theorem not_leading_of_alpha {c : Char} (h : c.isAlpha = true) : isLeading c = false := by
  refine decide_eq_false ?_
  intro hlow
  have hupper : 0x41 ≤ c.toNat := by
    rcases Bool.or_eq_true_iff.mp h with hcase | hcase
    · exact (of_decide_eq_true hcase).1
    · have hge : 0x61 ≤ c.toNat := of_decide_eq_true (Bool.and_eq_true_iff.mp hcase).1
      omega
  omega

/-- Cleaning keeps a scheme that stands in front. -/
theorem cleaned_scheme {scheme : Text} (h : isScheme scheme = true) (more : Text) :
    cleaned (scheme ++ more) = scheme ++ more.filter (fun c => !isUnsafe c) := by
  cases scheme with
  | nil => exact nomatch h
  | cons c rest =>
    have halpha : c.isAlpha = true := (Bool.and_eq_true_iff.mp h).1
    have hkept : (c :: rest).filter (fun c => !isUnsafe c) = c :: rest := by
      rw [List.filter_eq_self]
      intro d hd
      rw [(schemeChar_facts (schemeChar_of_isScheme h d hd)).2]
      rfl
    unfold cleaned
    rw [List.cons_append, List.dropWhile_cons, if_neg (by rw [not_leading_of_alpha halpha]; simp),
      ← List.cons_append, List.filter_append, hkept]

/-- Splitting off a scheme in lower case that stands in front. -/
theorem splitScheme_of_scheme {scheme : Text} (h : isScheme scheme = true)
    (hlower : scheme.map Char.toLower = scheme) (more : Text) :
    splitScheme (scheme ++ ':' :: more) = (scheme, more) := by
  have hall : ∀ c ∈ scheme, (c != ':') = true := fun c hc =>
    (schemeChar_facts (schemeChar_of_isScheme h c hc)).1
  have htake : (scheme ++ ':' :: more).takeWhile (fun c => c != ':') = scheme := by
    rw [List.takeWhile_append_of_pos hall, List.takeWhile_cons, if_neg (by simp), List.append_nil]
  have hdrop : (scheme ++ ':' :: more).dropWhile (fun c => c != ':') = ':' :: more := by
    rw [List.dropWhile_append_of_pos hall, List.dropWhile_cons, if_neg (by simp)]
  unfold splitScheme
  rw [htake, hdrop]
  simp only [if_pos h, hlower]

/-- The characters of an authority end it nowhere and are kept by the cleaning. -/
theorem netloc_facts (url : Text) :
    (∀ c ∈ (authorityOf url).2, (!isDelim c) = true)
      ∧ ∀ c ∈ (authorityOf url).2, (!isUnsafe c) = true := by
  have hclean : ∀ c ∈ cleaned url, (!isUnsafe c) = true := fun c hc =>
    (List.mem_filter.mp hc).2
  have hrest : ∀ c ∈ (splitScheme (cleaned url)).2, c ∈ cleaned url := by
    intro c
    unfold splitScheme
    cases hfound : (cleaned url).dropWhile (fun c => c != ':') with
    | nil => exact fun hc => hc
    | cons colon rest =>
      by_cases h : isScheme ((cleaned url).takeWhile (fun c => c != ':')) = true
      · simp only [if_pos h]
        intro hc
        refine (List.dropWhile_sublist (fun c => c != ':')).subset ?_
        rw [hfound]
        exact List.mem_cons_of_mem _ hc
      · simp only [if_neg h]
        exact fun hc => hc
  show (∀ c ∈ (splitNetloc (splitScheme (cleaned url)).2).1, _)
    ∧ ∀ c ∈ (splitNetloc (splitScheme (cleaned url)).2).1, _
  unfold splitNetloc
  by_cases h : (splitScheme (cleaned url)).2.take 2 = ['/', '/']
  · rw [if_pos h]
    refine ⟨fun c hc => List.mem_takeWhile_imp (p := fun c => !isDelim c) hc, fun c hc => ?_⟩
    refine hclean c (hrest c (List.mem_of_mem_drop (?_ : c ∈ List.drop 2 _)))
    exact (List.takeWhile_sublist _).subset hc
  · rw [if_neg h]
    exact ⟨nofun, nofun⟩

/-- Text behind `scheme://netloc` belongs to the authority up to its first delimiter. -/
theorem authorityOf_base_append {url : Text} (h : (authorityOf url).1 ≠ []) (more : Text) :
    authorityOf (baseOf url ++ more)
      = ((authorityOf url).1, (authorityOf url).2 ++ extension more) := by
  have hscheme : isScheme (authorityOf url).1 = true
      ∧ (authorityOf url).1.map Char.toLower = (authorityOf url).1 := by
    rcases splitScheme_scheme (cleaned url) with hnone | hsome
    · exact absurd hnone h
    · exact hsome
  obtain ⟨hdelim, hsafe⟩ := netloc_facts url
  have hbase : baseOf url ++ more
      = (authorityOf url).1 ++ ("://".toList ++ ((authorityOf url).2 ++ more)) := by
    simp [baseOf]
  have hfilter : ("://".toList ++ ((authorityOf url).2 ++ more)).filter (fun c => !isUnsafe c)
      = ':' :: '/' :: '/' :: ((authorityOf url).2 ++ more.filter (fun c => !isUnsafe c)) := by
    rw [List.filter_append, List.filter_append, List.filter_eq_self.mpr hsafe]
    rfl
  have hsplit : splitScheme (cleaned (baseOf url ++ more)) = ((authorityOf url).1,
      '/' :: '/' :: ((authorityOf url).2 ++ more.filter (fun c => !isUnsafe c))) := by
    rw [hbase, cleaned_scheme hscheme.1, hfilter, splitScheme_of_scheme hscheme.1 hscheme.2]
  show ((splitScheme (cleaned (baseOf url ++ more))).1,
    (splitNetloc (splitScheme (cleaned (baseOf url ++ more))).2).1) = _
  rw [hsplit]
  show ((authorityOf url).1, ((authorityOf url).2
    ++ more.filter (fun c => !isUnsafe c)).takeWhile (fun c => !isDelim c)) = _
  rw [List.takeWhile_append_of_pos hdelim]
  rfl

/-- The origin of a text behind `scheme://netloc`. -/
theorem originOf_base_append (url more : Text) :
    originOf badNetloc (baseOf url ++ more)
      = originFrom badNetloc (authorityOf url).1 ((authorityOf url).2 ++ extension more) := by
  by_cases h : (authorityOf url).1 = []
  · have hnone : ∀ netloc, originFrom badNetloc [] netloc = none := fun netloc => by
      unfold originFrom
      rw [if_neg (by decide)]
    have hscheme : (authorityOf (baseOf url ++ more)).1 = [] := by
      have hbase : baseOf url ++ more = ':' :: ("//".toList ++ ((authorityOf url).2 ++ more)) := by
        simp [baseOf, h]
      show (splitScheme (cleaned (baseOf url ++ more))).1 = []
      rw [hbase]
      rfl
    unfold originOf
    rw [hscheme, h, hnone, hnone]
  · unfold originOf
    rw [authorityOf_base_append h]

/-- Text that does not begin inside the authority changes no origin. -/
theorem originOf_base_append_of_extension {more : Text} (h : extension more = []) (url : Text) :
    originOf badNetloc (baseOf url ++ more) = originOf badNetloc url := by
  rw [originOf_base_append, h, List.append_nil]
  rfl

end UrlAuthority
