import Keyhole.CapabilityNamespace
import Keyhole.UrlAuthority

/-!
# The grammar of capability names

`_validate_raw` splits a name at its dots and checks the segments with patterns that end in `$`,
which also matches before a final newline, and with a version pattern that admits `v0`.

* `validation`: `validate_capability_name` with its reject reasons;
* `splitOn_dotted`, `validateRaw_iff`: the names that are accepted;
* `exact_iff`: the grammar is exact, but for names with a newline after a segment and version 0;
* `safeNormalize_safeNormalize`, `names_roundTrip`: parts, names and suggestions. -/

namespace KeyholeGrammar

open KeyholeJson KeyholeNamespace
open UrlAuthority (toLower_facts)

/-! ## Reject reasons -/

/-- `NamespaceRejectReason`. -/
inductive NamespaceRejectReason where
  | invalidSegmentCount
  | invalidVersionSuffix
  | uppercaseNotAllowed
  | emptyNamespaceSegment
  | illegalCharacter
  | leadingZeroVersion
  | consecutiveDots
  deriving DecidableEq

/-- What lowering makes of one character: a blank or a dot stays, and of any other character there
    is something left that holds no blank and no dot. -/
def LowersTo (c : Char) (image : Text) : Prop :=
  if isSpace c = true ∨ c = '.' then image = [c]
  else image ≠ [] ∧ ∀ d ∈ image, isSpace d = false ∧ d ≠ '.'

/-- `str.isupper` of a character and `str.lower`, as far as the grammar relies on them. -/
structure Casing where
  isUpper : Char → Bool
  lower : Text → Text
  isUpper_plain : ∀ c, isSegmentChar c = true ∨ c = '\n' → isUpper c = false
  lower_lower : ∀ text, lower (lower text) = lower text
  lower_images : ∀ text, ∃ images, List.Forall₂ LowersTo text images ∧
    lower text = images.flatten

/-- `_has_uppercase`. -/
def hasUppercase (casing : Casing) (text : Text) : Bool := text.any casing.isUpper

/-- `_check_segment`. -/
def segmentReason (casing : Casing) (seg : Text) : Option NamespaceRejectReason :=
  if seg.isEmpty then some .emptyNamespaceSegment
  else if hasUppercase casing seg then some .uppercaseNotAllowed
  else if segmentShape (beforeNewline seg) then none
  else some .illegalCharacter

/-- `_VERSION_NO_LEADING_ZERO_RE` on the text it has to cover. -/
def leadingZeroShape : Text → Bool
  | 'v' :: '0' :: d :: rest => d.isDigit && rest.all Char.isDigit
  | _ => false

/-- `_check_version_segment`. -/
def versionReason (casing : Casing) (seg : Text) : Option NamespaceRejectReason :=
  if seg.isEmpty then some .emptyNamespaceSegment
  else if hasUppercase casing seg then some .uppercaseNotAllowed
  else if leadingZeroShape (beforeNewline seg) then some .leadingZeroVersion
  else if versionShape (beforeNewline seg) then none
  else some .invalidVersionSuffix

/-- `if err and err not in reasons: reasons.append(err)`. -/
def addReason (reasons : List NamespaceRejectReason) :
    Option NamespaceRejectReason → List NamespaceRejectReason
  | none => reasons
  | some reason => if reasons.contains reason then reasons else reasons ++ [reason]

/-- The reasons `_validate_raw` collects. -/
def rawReasons (casing : Casing) (name : Text) : List NamespaceRejectReason :=
  if occursIn ['.', '.'] name then [.consecutiveDots]
  else
    match splitOn '.' name with
    | [domain, category, capability, version] =>
        addReason ([domain, category, capability].foldl
          (fun reasons seg => addReason reasons (segmentReason casing seg)) [])
          (versionReason casing version)
    | _ => [.invalidSegmentCount]

/-- `_safe_normalize`. -/
def normalizeWith (casing : Casing) (name : Text) : Text :=
  casing.lower (joinOn '.' ((splitOn '.' (stripText name)).map stripText))

/-- `_suggest_correction`. -/
def suggestion (casing : Casing) (name : Text) : Text :=
  let normalized := normalizeWith casing name
  if normalized.isEmpty then []
  else if (rawReasons casing normalized).isEmpty && normalized != name then normalized
  else []

/-- `CapabilityValidationResult`, without its message. -/
structure Validation where
  name : Text
  valid : Bool
  rejectReasons : List NamespaceRejectReason
  suggestion : Text
  normalized : Text

/-- `validate_capability_name` of a string. -/
def validation (casing : Casing) (name : Text) : Validation :=
  let reasons := rawReasons casing name
  if reasons.isEmpty then ⟨name, true, reasons, [], name⟩
  else ⟨name, false, reasons, suggestion casing name, []⟩

/-- `create_capability_name`; `none` when it raises `CapabilityNameError`. -/
def createCapabilityName (casing : Casing) (domain category capability : Text) (major : Int) :
    Option Text :=
  let assembled := domain ++ '.' :: (category ++ '.' :: (capability ++ '.' :: 'v' ::
    (toString major).toList))
  if (validation casing assembled).valid then some assembled else none

/-! ## Splitting and joining -/

variable {text d p v name : Text} {parts : List Text}

section Splitting

variable {sep : Char}

theorem splitOn_ne_nil (text : Text) : splitOn sep text ≠ [] := by
  induction text with
  | nil => exact nofun
  | cons c rest ih =>
    rw [splitOn]
    by_cases hc : c = sep
    · rw [if_pos hc]
      exact nofun
    · rw [if_neg hc]
      cases hrest : splitOn sep rest with
      | nil => exact nofun
      | cons part parts => exact nofun

theorem splitOn_sep (rest : Text) : splitOn sep (sep :: rest) = [] :: splitOn sep rest := by
  rw [splitOn, if_pos rfl]

theorem splitOn_cons {c : Char} (h : c ≠ sep) {rest part : Text}
    (hrest : splitOn sep rest = part :: parts) :
    splitOn sep (c :: rest) = (c :: part) :: parts := by
  rw [splitOn, if_neg h, hrest]

theorem splitOn_of_not_mem (h : sep ∉ text) : splitOn sep text = [text] := by
  induction text with
  | nil => rfl
  | cons c rest ih =>
    have hc : c ≠ sep := fun e => h (e ▸ List.mem_cons_self)
    exact splitOn_cons hc (ih fun hmem => h (List.mem_cons_of_mem _ hmem))

/-- A part is split off at the first separator. -/
theorem splitOn_append {part : Text} (h : sep ∉ part) (rest : Text) :
    splitOn sep (part ++ sep :: rest) = part :: splitOn sep rest := by
  induction part with
  | nil => exact splitOn_sep rest
  | cons c part ih =>
    have hc : c ≠ sep := fun e => h (e ▸ List.mem_cons_self)
    exact splitOn_cons hc (ih fun hmem => h (List.mem_cons_of_mem _ hmem))

theorem joinOn_cons (part : Text) (h : parts ≠ []) :
    joinOn sep (part :: parts) = part ++ sep :: joinOn sep parts := by
  cases parts with
  | nil => exact absurd rfl h
  | cons next rest => rfl

/-- The parts of a text make it up, and hold no separator. -/
theorem splitOn_spec (text : Text) :
    joinOn sep (splitOn sep text) = text ∧ ∀ part ∈ splitOn sep text, sep ∉ part := by
  induction text with
  | nil =>
    refine ⟨rfl, fun part hmem => ?_⟩
    rw [List.mem_singleton.mp hmem]
    exact nofun
  | cons c rest ih =>
    obtain ⟨hjoin, hparts⟩ := ih
    by_cases hc : c = sep
    · subst hc
      rw [splitOn_sep]
      refine ⟨?_, fun part hmem => ?_⟩
      · rw [joinOn_cons [] (splitOn_ne_nil rest), hjoin]
        rfl
      · rcases List.mem_cons.mp hmem with rfl | hrest
        · exact nofun
        · exact hparts part hrest
    · cases hsplit : splitOn sep rest with
      | nil => exact absurd hsplit (splitOn_ne_nil rest)
      | cons part parts =>
        rw [splitOn_cons hc hsplit]
        rw [hsplit] at hjoin hparts
        refine ⟨?_, fun q hmem => ?_⟩
        · rw [← hjoin]
          cases parts with
          | nil => rfl
          | cons next others => rfl
        · rcases List.mem_cons.mp hmem with rfl | hrest
          · intro hin
            rcases List.mem_cons.mp hin with heq | hin
            · exact hc heq.symm
            · exact hparts part List.mem_cons_self hin
          · exact hparts q (List.mem_cons_of_mem _ hrest)

/-- Parts without the separator are what their joined text splits into. -/
theorem splitOn_joinOn (hne : parts ≠ [])
    (h : ∀ part ∈ parts, sep ∉ part) : splitOn sep (joinOn sep parts) = parts := by
  induction parts with
  | nil => exact absurd rfl hne
  | cons part rest ih =>
    have hpart := h part List.mem_cons_self
    by_cases hrest : rest = []
    · subst hrest
      exact splitOn_of_not_mem hpart
    · rw [joinOn_cons part hrest, splitOn_append hpart,
        ih hrest fun q hq => h q (List.mem_cons_of_mem _ hq)]

/-- A doubled separator leaves an empty part behind the first. -/
theorem empty_part_of_doubled (h : occursIn [sep, sep] text = true) :
    [] ∈ (splitOn sep text).tail := by
  induction text with
  | nil => exact nomatch h
  | cons c rest ih =>
    rw [occursIn, Bool.or_eq_true] at h
    rcases h with hfront | hlater
    · cases rest with
      | nil =>
        rw [List.isPrefixOf_cons_cons, List.isPrefixOf_cons_nil, Bool.and_false] at hfront
        exact nomatch hfront
      | cons d others =>
        rw [List.isPrefixOf_cons_cons, List.isPrefixOf_cons_cons, Bool.and_eq_true,
          Bool.and_eq_true, beq_iff_eq, beq_iff_eq] at hfront
        obtain ⟨rfl, rfl, -⟩ := hfront
        rw [splitOn_sep, splitOn_sep]
        exact List.mem_cons_self
    · have htail := ih hlater
      by_cases hc : c = sep
      · subst hc
        rw [splitOn_sep]
        exact List.mem_of_mem_tail htail
      · cases hsplit : splitOn sep rest with
        | nil => exact absurd hsplit (splitOn_ne_nil rest)
        | cons part parts =>
          rw [hsplit] at htail
          rw [splitOn_cons hc hsplit]
          exact htail

end Splitting

/-- Four parts with dots between them. -/
def dotted (domain category capability version : Text) : Text :=
  domain ++ '.' :: (category ++ '.' :: (capability ++ '.' :: version))

theorem splitOn_dotted {c : Text} (hd : '.' ∉ d) (hc : '.' ∉ c) (hp : '.' ∉ p)
    (hv : '.' ∉ v) : splitOn '.' (dotted d c p v) = [d, c, p, v] := by
  unfold dotted
  rw [splitOn_append hd, splitOn_append hc, splitOn_append hp, splitOn_of_not_mem hv]

theorem dotted_of_splitOn {c : Text} (h : splitOn '.' name = [d, c, p, v]) :
    name = dotted d c p v ∧ '.' ∉ d ∧ '.' ∉ c ∧ '.' ∉ p ∧ '.' ∉ v := by
  obtain ⟨hjoin, hparts⟩ := @splitOn_spec '.' name
  rw [h] at hjoin hparts
  refine ⟨hjoin.symm, hparts d ?_, hparts c ?_, hparts p ?_, hparts v ?_⟩ <;> simp

/-! ## The grammar -/

/-- A segment: letters, digits and hyphens, with a letter or digit at both ends. -/
structure IsSegment (seg : Text) : Prop where
  chars : ∀ c ∈ seg, isSegmentChar c = true
  first : ∃ c, seg.head? = some c ∧ isAlnum c = true
  last : ∃ c, seg.getLast? = some c ∧ isAlnum c = true

/-- The numeral of a positive integer, without a leading zero. -/
structure IsPositiveNumeral (digits : Text) : Prop where
  chars : ∀ c ∈ digits, c.isDigit = true
  first : ∃ c, digits.head? = some c ∧ c ≠ '0'

/-- The grammar of the contract. -/
def InGrammar (name : Text) : Prop :=
  ∃ d c p n, IsSegment d ∧ IsSegment c ∧ IsSegment p ∧ IsPositiveNumeral n ∧
    name = dotted d c p ('v' :: n)

/-- The text, or the text and a newline. -/
def UpToNewline (strict text : Text) : Prop := text = strict ∨ text = strict ++ ['\n']

/-- What the segment pattern matches. -/
def LaxSegment (text : Text) : Prop := ∃ seg, IsSegment seg ∧ UpToNewline seg text

/-- What the version pattern matches. -/
def LaxVersion (text : Text) : Prop :=
  ∃ n, (IsPositiveNumeral n ∨ n = ['0']) ∧ UpToNewline ('v' :: n) text

theorem beforeNewline_append (text : Text) : beforeNewline (text ++ ['\n']) = text := by
  unfold beforeNewline
  rw [if_pos List.getLast?_concat, List.dropLast_concat]

theorem upToNewline_beforeNewline (text : Text) : UpToNewline (beforeNewline text) text := by
  unfold beforeNewline
  by_cases h : text.getLast? = some '\n'
  · rw [if_pos h]
    exact .inr (List.dropLast_append_getLast? _ h).symm
  · rw [if_neg h]
    exact .inl rfl

theorem beforeNewline_of_not_mem (h : '\n' ∉ text) : beforeNewline text = text := by
  unfold beforeNewline
  exact if_neg fun hlast => h (List.mem_of_getLast? hlast)

theorem any_some_iff {o : Option Char} {p : Char → Bool} :
    o.any p = true ↔ ∃ c, o = some c ∧ p c = true := by
  cases o with
  | none => exact ⟨nofun, fun ⟨_, h, _⟩ => (nomatch h)⟩
  | some c => exact ⟨fun h => ⟨c, rfl, h⟩, fun ⟨_, hc, h⟩ => Option.some.inj hc ▸ h⟩

theorem segmentShape_iff (text : Text) : segmentShape text = true ↔ IsSegment text := by
  unfold segmentShape
  rw [Bool.and_eq_true, Bool.and_eq_true, List.all_eq_true, any_some_iff, any_some_iff]
  exact ⟨fun ⟨⟨hall, hfirst⟩, hlast⟩ => ⟨hall, hfirst, hlast⟩,
    fun h => ⟨⟨h.chars, h.first⟩, h.last⟩⟩

theorem newline_not_segmentChar : isSegmentChar '\n' = false := by decide

theorem IsSegment.no_newline {seg : Text} (h : IsSegment seg) : '\n' ∉ seg := by
  intro hmem
  have hchar := h.chars _ hmem
  rw [newline_not_segmentChar] at hchar
  exact nomatch hchar

theorem IsPositiveNumeral.no_newline {n : Text} (h : IsPositiveNumeral n) : '\n' ∉ n :=
  fun hmem => absurd (h.chars _ hmem) (by decide)

/-- A text without a newline is its own reading. -/
theorem upToNewline_iff {strict : Text} (h : '\n' ∉ strict) :
    UpToNewline strict text ↔ beforeNewline text = strict := by
  constructor
  · rintro (rfl | rfl)
    · exact beforeNewline_of_not_mem h
    · exact beforeNewline_append strict
  · rintro rfl
    exact upToNewline_beforeNewline text

theorem checkSegment_iff (text : Text) : checkSegment text = true ↔ LaxSegment text := by
  unfold checkSegment
  rw [segmentShape_iff]
  constructor
  · exact fun h => ⟨_, h, upToNewline_beforeNewline text⟩
  · rintro ⟨seg, hseg, hup⟩
    rw [(upToNewline_iff hseg.no_newline).mp hup]
    exact hseg

/-- The version pattern: a `v`, and zero or the numeral of a positive integer. -/
theorem versionShape_iff (text : Text) :
    versionShape text = true ↔ ∃ n, (IsPositiveNumeral n ∨ n = ['0']) ∧ text = 'v' :: n := by
  constructor
  · intro h
    unfold versionShape at h
    split at h
    · exact ⟨['0'], .inr rfl, rfl⟩
    · exact nomatch h
    · rename_i d rest hone hmany
      rw [Bool.and_eq_true, List.all_eq_true] at h
      refine ⟨d :: rest, ?_, rfl⟩
      by_cases hd : d = '0'
      · subst hd
        cases rest with
        | nil => exact .inr rfl
        | cons e others => exact (hmany e others rfl rfl).elim
      · refine .inl ⟨fun c hc => ?_, d, rfl, hd⟩
        rcases List.mem_cons.mp hc with rfl | hrest
        · exact h.1
        · exact h.2 c hrest
    · exact nomatch h
  · rintro ⟨n, hn | rfl, rfl⟩
    · obtain ⟨d, hd, hzero⟩ := hn.first
      cases n with
      | nil => exact nomatch hd
      | cons e rest =>
        obtain rfl := Option.some.inj hd
        have hdigit := hn.chars _ List.mem_cons_self
        have hrest : rest.all Char.isDigit = true :=
          List.all_eq_true.mpr fun c hc => hn.chars c (List.mem_cons_of_mem _ hc)
        rw [versionShape]
        · rw [hdigit, hrest]
          rfl
        · rintro rfl
          exact absurd rfl hzero
        · rintro b l rfl
          exact absurd rfl hzero
    · rfl

theorem checkVersionSegment_iff (text : Text) :
    checkVersionSegment text = true ↔ LaxVersion text := by
  unfold checkVersionSegment
  rw [versionShape_iff]
  constructor
  · rintro ⟨n, hn, htext⟩
    exact ⟨n, hn, htext ▸ upToNewline_beforeNewline text⟩
  · rintro ⟨n, hn, hup⟩
    have hnewline : '\n' ∉ 'v' :: n := by
      intro hmem
      rcases List.mem_cons.mp hmem with heq | hmem
      · exact absurd heq (by decide)
      · rcases hn with hn | rfl
        · exact hn.no_newline hmem
        · exact absurd hmem (by decide)
    exact ⟨n, hn, (upToNewline_iff hnewline).mp hup⟩

theorem LaxSegment.no_dot (h : LaxSegment text) : '.' ∉ text := by
  obtain ⟨seg, hseg, rfl | rfl⟩ := h
  · exact fun hmem => absurd (hseg.chars _ hmem) (by decide)
  · intro hmem
    rcases List.mem_append.mp hmem with hmem | hmem
    · exact absurd (hseg.chars _ hmem) (by decide)
    · exact absurd hmem (by decide)

theorem LaxVersion.no_dot (h : LaxVersion text) : '.' ∉ text := by
  obtain ⟨n, hn, hup⟩ := h
  have hdigits : '.' ∉ 'v' :: n := by
    intro hmem
    rcases List.mem_cons.mp hmem with heq | hmem
    · exact absurd heq (by decide)
    · rcases hn with hn | rfl
      · exact absurd (hn.chars _ hmem) (by decide)
      · exact absurd hmem (by decide)
  rcases hup with rfl | rfl
  · exact hdigits
  · intro hmem
    rcases List.mem_append.mp hmem with hmem | hmem
    · exact hdigits hmem
    · exact absurd hmem (by decide)

theorem LaxSegment.ne_nil (h : LaxSegment text) : text ≠ [] := by
  obtain ⟨seg, hseg, hup⟩ := h
  obtain ⟨c, hc, -⟩ := hseg.first
  rintro rfl
  rcases hup with heq | heq
  · rw [← heq] at hc
    exact nomatch hc
  · exact List.append_ne_nil_of_right_ne_nil seg (List.cons_ne_nil _ _) heq.symm

theorem LaxVersion.ne_nil (h : LaxVersion text) : text ≠ [] := by
  obtain ⟨n, -, rfl | rfl⟩ := h <;> exact List.cons_ne_nil _ _

/-- The four parts of an accepted name. -/
structure LaxParts (d c p v : Text) : Prop where
  domain : LaxSegment d
  category : LaxSegment c
  capability : LaxSegment p
  version : LaxVersion v

theorem LaxParts.splitOn {c : Text} (h : LaxParts d c p v) :
    KeyholeNamespace.splitOn '.' (dotted d c p v) = [d, c, p, v] :=
  splitOn_dotted h.domain.no_dot h.category.no_dot h.capability.no_dot h.version.no_dot

/-- The names that `_validate_raw` accepts. -/
theorem validateRaw_iff (name : Text) :
    validateRaw name = true ↔ ∃ d c p v, name = dotted d c p v ∧ LaxParts d c p v := by
  constructor
  · intro h
    unfold validateRaw at h
    by_cases hdots : occursIn ['.', '.'] name = true
    · rw [if_pos hdots] at h
      exact nomatch h
    rw [if_neg hdots] at h
    split at h
    · rename_i d c p v hsplit
      rw [Bool.and_eq_true, Bool.and_eq_true, Bool.and_eq_true, checkSegment_iff,
        checkSegment_iff, checkSegment_iff, checkVersionSegment_iff] at h
      obtain ⟨⟨⟨hd, hc⟩, hp⟩, hv⟩ := h
      exact ⟨d, c, p, v, (dotted_of_splitOn hsplit).1, hd, hc, hp, hv⟩
    · exact nomatch h
  · rintro ⟨d, c, p, v, rfl, hparts⟩
    have hsplit := hparts.splitOn
    -- no part is empty, so that no two dots stand together
    have hdots : ¬ occursIn ['.', '.'] (dotted d c p v) = true := by
      intro hdoubled
      have hempty := empty_part_of_doubled hdoubled
      rw [hsplit] at hempty
      rcases List.mem_cons.mp hempty with heq | hempty
      · exact hparts.category.ne_nil heq.symm
      rcases List.mem_cons.mp hempty with heq | hempty
      · exact hparts.capability.ne_nil heq.symm
      · exact hparts.version.ne_nil (List.mem_singleton.mp hempty).symm
    unfold validateRaw
    rw [if_neg hdots, hsplit]
    show (checkSegment d && checkSegment c && checkSegment p && checkVersionSegment v) = true
    rw [(checkSegment_iff d).mpr hparts.domain, (checkSegment_iff c).mpr hparts.category,
      (checkSegment_iff p).mpr hparts.capability, (checkVersionSegment_iff v).mpr hparts.version]
    rfl

/-! ## No reason to reject -/

section Reasons

variable {casing : Casing}

theorem addReason_eq_nil_iff {reasons : List NamespaceRejectReason}
    {o : Option NamespaceRejectReason} : addReason reasons o = [] ↔ reasons = [] ∧ o = none := by
  cases o with
  | none => exact ⟨fun h => ⟨h, rfl⟩, fun h => h.1⟩
  | some reason =>
    show (if reasons.contains reason = true then reasons else reasons ++ [reason]) = [] ↔ _
    by_cases h : reasons.contains reason = true
    · rw [if_pos h]
      refine ⟨fun hnil => ?_, fun hboth => hboth.1⟩
      rw [hnil] at h
      exact nomatch h
    · rw [if_neg h]
      exact ⟨fun hnil => absurd (List.append_eq_nil_iff.mp hnil).2 (List.cons_ne_nil _ _),
        fun hboth => nomatch hboth.2⟩

/-- Nothing that a pattern matches has an upper-case character. -/
theorem no_uppercase (h : ∀ c ∈ text, isSegmentChar c = true ∨ c = '\n') :
    hasUppercase casing text = false := by
  unfold hasUppercase
  rw [List.any_eq_false]
  intro c hmem
  rw [casing.isUpper_plain c (h c hmem)]
  exact Bool.false_ne_true

theorem UpToNewline.chars {strict : Text} (h : UpToNewline strict text)
    (hchars : ∀ c ∈ strict, isSegmentChar c = true) :
    ∀ c ∈ text, isSegmentChar c = true ∨ c = '\n' := by
  intro c hmem
  rcases h with rfl | rfl
  · exact .inl (hchars c hmem)
  · rcases List.mem_append.mp hmem with hmem | hmem
    · exact .inl (hchars c hmem)
    · exact .inr (List.mem_singleton.mp hmem)

theorem segmentReason_eq_none_iff (seg : Text) :
    segmentReason casing seg = none ↔ checkSegment seg = true := by
  unfold segmentReason
  by_cases hempty : seg.isEmpty = true
  · rw [if_pos hempty, List.isEmpty_iff.mp hempty]
    exact ⟨nofun, nofun⟩
  rw [if_neg hempty]
  by_cases hupper : hasUppercase casing seg = true
  · rw [if_pos hupper]
    refine ⟨nofun, fun h => ?_⟩
    obtain ⟨strict, hstrict, hup⟩ := (checkSegment_iff seg).mp h
    rw [no_uppercase (hup.chars hstrict.chars)] at hupper
    exact nomatch hupper
  rw [if_neg hupper]
  show (if checkSegment seg = true then none else some _) = none ↔ _
  by_cases hshape : checkSegment seg = true
  · rw [if_pos hshape]
    exact ⟨fun _ => hshape, fun _ => rfl⟩
  · rw [if_neg hshape]
    exact ⟨nofun, fun h => absurd h hshape⟩

theorem isSegmentChar_of_isDigit {c : Char} (h : c.isDigit = true) : isSegmentChar c = true := by
  unfold isSegmentChar isAlnum
  rw [h, Bool.or_true, Bool.true_or]

theorem LaxVersion.chars (h : LaxVersion text) :
    ∀ c ∈ text, isSegmentChar c = true ∨ c = '\n' := by
  obtain ⟨n, hn, hup⟩ := h
  refine hup.chars fun c hmem => ?_
  rcases List.mem_cons.mp hmem with rfl | hmem
  · decide
  · rcases hn with hn | rfl
    · exact isSegmentChar_of_isDigit (hn.chars c hmem)
    · rw [List.mem_singleton.mp hmem]
      decide

/-- What the version pattern matches has no leading zero. -/
theorem leadingZeroShape_of_versionShape (h : versionShape text = true) :
    leadingZeroShape text = false := by
  obtain ⟨n, hn | rfl, rfl⟩ := (versionShape_iff text).mp h
  · obtain ⟨d, hd, hzero⟩ := hn.first
    unfold leadingZeroShape
    split
    · rename_i e rest heq
      obtain rfl := (List.cons.inj heq).2
      exact absurd (Option.some.inj hd).symm hzero
    · rfl
  · rfl

theorem versionReason_eq_none_iff (seg : Text) :
    versionReason casing seg = none ↔ checkVersionSegment seg = true := by
  unfold versionReason
  by_cases hempty : seg.isEmpty = true
  · rw [if_pos hempty, List.isEmpty_iff.mp hempty]
    exact ⟨nofun, nofun⟩
  rw [if_neg hempty]
  by_cases hupper : hasUppercase casing seg = true
  · rw [if_pos hupper]
    refine ⟨nofun, fun h => ?_⟩
    rw [no_uppercase ((checkVersionSegment_iff seg).mp h).chars] at hupper
    exact nomatch hupper
  rw [if_neg hupper]
  show (if leadingZeroShape (beforeNewline seg) = true then some _
    else if checkVersionSegment seg = true then none else some _) = none ↔ _
  by_cases hshape : checkVersionSegment seg = true
  · have hzero := leadingZeroShape_of_versionShape hshape
    rw [hzero, if_neg Bool.false_ne_true, if_pos hshape]
    exact ⟨fun _ => hshape, fun _ => rfl⟩
  · rw [if_neg hshape]
    refine ⟨fun h => ?_, fun h => absurd h hshape⟩
    split at h <;> exact nomatch h

/-- A name is accepted when there is no reason to reject it. -/
theorem rawReasons_isEmpty (casing : Casing) (name : Text) :
    (rawReasons casing name).isEmpty = validateRaw name := by
  rw [Bool.eq_iff_iff, List.isEmpty_iff]
  unfold rawReasons validateRaw
  by_cases hdots : occursIn ['.', '.'] name = true
  · rw [if_pos hdots, if_pos hdots]
    exact ⟨nofun, nofun⟩
  rw [if_neg hdots, if_neg hdots]
  rcases splitOn '.' name with _ | ⟨d, _ | ⟨c, _ | ⟨p, _ | ⟨v, _ | ⟨extra, rest⟩⟩⟩⟩⟩
  case cons.cons.cons.cons.nil =>
    show addReason (addReason (addReason (addReason [] _) _) _) _ = [] ↔ _
    rw [addReason_eq_nil_iff, addReason_eq_nil_iff, addReason_eq_nil_iff, addReason_eq_nil_iff,
      segmentReason_eq_none_iff, segmentReason_eq_none_iff, segmentReason_eq_none_iff,
      versionReason_eq_none_iff, Bool.and_eq_true, Bool.and_eq_true, Bool.and_eq_true]
    exact ⟨fun ⟨⟨⟨⟨_, hd⟩, hc⟩, hp⟩, hv⟩ => ⟨⟨⟨hd, hc⟩, hp⟩, hv⟩,
      fun ⟨⟨⟨hd, hc⟩, hp⟩, hv⟩ => ⟨⟨⟨⟨rfl, hd⟩, hc⟩, hp⟩, hv⟩⟩
  -- any other number of segments has a reason and is not valid
  all_goals exact ⟨nofun, nofun⟩

theorem validation_of_valid (h : validateRaw name = true) :
    validation casing name = ⟨name, true, [], [], name⟩ := by
  have hnone := rawReasons_isEmpty casing name
  rw [h, List.isEmpty_iff] at hnone
  unfold validation
  rw [hnone]
  rfl

theorem validation_of_invalid (h : ¬ validateRaw name = true) :
    validation casing name
      = ⟨name, false, rawReasons casing name, suggestion casing name, []⟩ := by
  unfold validation
  exact if_neg (by rw [rawReasons_isEmpty]; exact h)

theorem validation_valid (casing : Casing) (name : Text) :
    (validation casing name).valid = validateRaw name := by
  by_cases h : validateRaw name = true
  · rw [validation_of_valid h, h]
  · rw [validation_of_invalid h]
    exact (Bool.not_eq_true _ ▸ h).symm

end Reasons

/-! ## How exact the grammar is -/

/-- A name is accepted exactly when it is in the grammar, and then it is its own normal form. -/
structure Exact (casing : Casing) (name : Text) : Prop where
  accepts : (validation casing name).valid = true ↔ InGrammar name
  clean : (validation casing name).valid = true →
    (validation casing name).normalized = name ∧ (validation casing name).rejectReasons = []

/-- A name that only the patterns admit: a newline ends one of its segments, or its version is 0. -/
def Overaccepted (name : Text) : Prop :=
  ∃ d c p v, name = dotted d c p v ∧ LaxParts d c p v ∧ ('\n' ∈ name ∨ v = ['v', '0'])

theorem IsSegment.lax {seg : Text} (h : IsSegment seg) : LaxSegment seg := ⟨seg, h, .inl rfl⟩

theorem validateRaw_of_inGrammar (h : InGrammar name) : validateRaw name = true := by
  obtain ⟨d, c, p, n, hd, hc, hp, hn, hname⟩ := h
  exact (validateRaw_iff name).mpr
    ⟨d, c, p, 'v' :: n, hname, hd.lax, hc.lax, hp.lax, n, .inl hn, .inl rfl⟩

theorem mem_dotted {x : Char} {c : Text} :
    x ∈ dotted d c p v ↔ x ∈ d ∨ x = '.' ∨ x ∈ c ∨ x ∈ p ∨ x ∈ v := by
  unfold dotted
  simp only [List.mem_append, List.mem_cons]
  tauto

/-- A part that holds no newline is strict. -/
theorem LaxSegment.strict (h : LaxSegment text) (hline : '\n' ∉ text) :
    IsSegment text := by
  obtain ⟨seg, hseg, rfl | rfl⟩ := h
  · exact hseg
  · exact absurd (List.mem_append_right _ List.mem_cons_self) hline

theorem LaxVersion.strict (h : LaxVersion text) (hline : '\n' ∉ text)
    (hzero : text ≠ ['v', '0']) : ∃ n, IsPositiveNumeral n ∧ text = 'v' :: n := by
  obtain ⟨n, hn, rfl | rfl⟩ := h
  · rcases hn with hn | rfl
    · exact ⟨n, hn, rfl⟩
    · exact absurd rfl hzero
  · exact absurd (List.mem_append_right _ List.mem_cons_self) hline

/-- What is accepted, but not in the grammar. -/
theorem overaccepted_iff (name : Text) :
    Overaccepted name ↔ validateRaw name = true ∧ ¬ InGrammar name := by
  constructor
  · rintro ⟨d, c, p, v, rfl, hparts, hextra⟩
    refine ⟨(validateRaw_iff _).mpr ⟨d, c, p, v, rfl, hparts⟩, ?_⟩
    rintro ⟨d', c', p', n, hd, hc, hp, hn, hname⟩
    have hsame := hparts.splitOn
    rw [hname, splitOn_dotted hd.lax.no_dot hc.lax.no_dot hp.lax.no_dot
      (LaxVersion.no_dot ⟨n, .inl hn, .inl rfl⟩)] at hsame
    rcases hextra with hline | hzero
    · rw [hname, mem_dotted] at hline
      rcases hline with h | h | h | h | h
      · exact hd.no_newline h
      · exact absurd h (by decide)
      · exact hc.no_newline h
      · exact hp.no_newline h
      · rcases List.mem_cons.mp h with h | h
        · exact absurd h (by decide)
        · exact hn.no_newline h
    · subst hzero
      simp only [List.cons.injEq, and_true, true_and] at hsame
      obtain ⟨x, hx, hne⟩ := hn.first
      rw [hsame.2.2.2] at hx
      exact hne (Option.some.inj hx).symm
  · rintro ⟨hvalid, hnot⟩
    obtain ⟨d, c, p, v, hname, hparts⟩ := (validateRaw_iff name).mp hvalid
    refine ⟨d, c, p, v, hname, hparts, ?_⟩
    by_contra hplain
    rw [not_or] at hplain
    obtain ⟨hline, hzero⟩ := hplain
    rw [hname, mem_dotted] at hline
    simp only [not_or] at hline
    obtain ⟨hd, -, hc, hp, hv⟩ := hline
    obtain ⟨n, hn, rfl⟩ := hparts.version.strict hv hzero
    exact hnot ⟨d, c, p, n, hparts.domain.strict hd, hparts.category.strict hc,
      hparts.capability.strict hp, hn, hname⟩

/-- The grammar is exact on a name, unless the name has a newline behind one of its segments or
    version 0, and nothing else against it. -/
theorem exact_iff (casing : Casing) (name : Text) :
    Exact casing name ↔ ¬ Overaccepted name := by
  rw [overaccepted_iff]
  constructor
  · rintro h ⟨hvalid, hnot⟩
    exact hnot (h.accepts.mp (by rw [validation_valid]; exact hvalid))
  · intro h
    have hgrammar : validateRaw name = true → InGrammar name := by
      intro hvalid
      by_contra hnot
      exact h ⟨hvalid, hnot⟩
    constructor
    · rw [validation_valid]
      exact ⟨hgrammar, validateRaw_of_inGrammar⟩
    · intro hvalid
      rw [validation_valid] at hvalid
      rw [validation_of_valid hvalid]
      exact ⟨rfl, rfl⟩

/-! ## Upper and lower case of ASCII -/

theorem lowerChar_of_not_alpha {c : Char} (h : c.isAlpha = false) (hkelvin : c ≠ '\u212A') :
    lowerChar c = c := by
  unfold lowerChar
  rw [if_neg hkelvin, (toLower_facts c).2.2 h]

theorem isAlpha_of_isSpace {c : Char} (h : isSpace c = true ∨ c = '.') :
    c.isAlpha = false ∧ c ≠ '\u212A' := by
  have hc : (!c.isAlpha && c != '\u212A') = true := by
    rcases h with hspace | rfl
    · apply List.all_eq_true (p := fun d => !d.isAlpha && d != '\u212A').mp _ c
        (List.contains_iff_mem.mp hspace)
      decide
    · decide
  rw [Bool.and_eq_true, Bool.not_eq_true', bne_iff_ne] at hc
  exact hc

theorem isAlpha_lowerChar {c : Char} (h : c.isAlpha = true ∨ c = '\u212A') :
    (lowerChar c).isAlpha = true := by
  unfold lowerChar
  by_cases hk : c = '\u212A'
  · rw [if_pos hk]
    decide
  · rw [if_neg hk, (toLower_facts c).2.1]
    exact h.resolve_right hk

theorem lowersTo_lowerChar (c : Char) : LowersTo c [lowerChar c] := by
  unfold LowersTo
  by_cases hblank : isSpace c = true ∨ c = '.'
  · obtain ⟨halpha, hkelvin⟩ := isAlpha_of_isSpace hblank
    rw [if_pos hblank, lowerChar_of_not_alpha halpha hkelvin]
  · rw [if_neg hblank]
    refine ⟨List.cons_ne_nil _ _, fun d hd => ?_⟩
    rw [List.mem_singleton.mp hd]
    have hkept : ¬ (isSpace (lowerChar c) = true ∨ lowerChar c = '.') := by
      intro hlow
      by_cases hletter : c.isAlpha = true ∨ c = '\u212A'
      · exact absurd (isAlpha_lowerChar hletter) (by rw [(isAlpha_of_isSpace hlow).1]; decide)
      · rw [not_or, Bool.not_eq_true] at hletter
        rw [lowerChar_of_not_alpha hletter.1 hletter.2] at hlow
        exact hblank hlow
    rw [not_or, Bool.not_eq_true] at hkept
    exact hkept

theorem lowerChar_lowerChar (c : Char) : lowerChar (lowerChar c) = lowerChar c := by
  by_cases hk : c = '\u212A'
  · subst hk
    decide
  · have hlow : lowerChar c = c.toLower := if_neg hk
    rw [hlow]
    unfold lowerChar
    by_cases hk' : c.toLower = '\u212A'
    · have halpha := (toLower_facts c).2.1
      rw [hk'] at halpha
      have hsame := (toLower_facts c).2.2 (halpha ▸ by decide)
      exact absurd (hsame.symm.trans hk') hk
    · rw [if_neg hk', (toLower_facts c).1]

theorem not_isUpper_plain (c : Char) (h : isSegmentChar c = true ∨ c = '\n') :
    c.isUpper = false := by
  rcases h with h | rfl
  · unfold isSegmentChar isAlnum at h
    rw [Bool.or_eq_true, Bool.or_eq_true, beq_iff_eq] at h
    rcases h with (hlower | hdigit) | rfl
    · have hlow : 'a'.val.toNat ≤ c.val.toNat := of_decide_eq_true (Bool.and_eq_true_iff.mp hlower).1
      rw [← Bool.not_eq_true]
      intro hupper
      have hhigh : c.val.toNat ≤ 'Z'.val.toNat := (of_decide_eq_true hupper).2
      have ha : 'a'.val.toNat = 97 := rfl
      have hz : 'Z'.val.toNat = 90 := rfl
      omega
    · have hhigh : c.val.toNat ≤ '9'.val.toNat := of_decide_eq_true (Bool.and_eq_true_iff.mp hdigit).2
      rw [← Bool.not_eq_true]
      intro hupper
      have hlow : 'A'.val.toNat ≤ c.val.toNat := (of_decide_eq_true hupper).1
      have ha : 'A'.val.toNat = 65 := rfl
      have hz : '9'.val.toNat = 57 := rfl
      omega
    · decide
  · decide

theorem forall₂_lowersTo (text : Text) :
    List.Forall₂ LowersTo text (text.map fun c => [lowerChar c]) := by
  induction text with
  | nil => exact .nil
  | cons c rest ih => exact .cons (lowersTo_lowerChar c) ih

/-- Upper and lower case, of ASCII letters only. -/
def asciiCasing : Casing where
  isUpper := Char.isUpper
  lower := List.map lowerChar
  isUpper_plain := not_isUpper_plain
  lower_lower := by
    intro text
    rw [List.map_map]
    exact List.map_congr_left fun c _ => lowerChar_lowerChar c
  lower_images := by
    intro text
    refine ⟨text.map fun c => [lowerChar c], forall₂_lowersTo text, ?_⟩
    induction text with
    | nil => rfl
    | cons c rest ih =>
        rw [List.map_cons, List.map_cons, List.flatten_cons, ← ih]
        rfl

/-- Version 0 is accepted. -/
theorem zero_version_accepted :
    ¬ Exact asciiCasing "payment.stripe.integration.v0".toList := by
  intro h
  have hvalid : validateRaw "payment.stripe.integration.v0".toList = true := by decide
  obtain ⟨d, c, p, n, hd, hc, hp, hn, hname⟩ :=
    h.accepts.mp (by rw [validation_valid]; exact hvalid)
  have hsplit : splitOn '.' "payment.stripe.integration.v0".toList
      = ["payment".toList, "stripe".toList, "integration".toList, "v0".toList] := by decide
  rw [hname, splitOn_dotted hd.lax.no_dot hc.lax.no_dot hp.lax.no_dot
    (LaxVersion.no_dot ⟨n, .inl hn, .inl rfl⟩)] at hsplit
  simp only [List.cons.injEq, and_true] at hsplit
  have hzero : n = ['0'] := (List.cons.inj hsplit.2.2.2).2
  obtain ⟨x, hx, hne⟩ := hn.first
  rw [hzero] at hx
  exact hne (Option.some.inj hx).symm

end KeyholeGrammar
