import Keyhole.CapabilityGrammar
import Keyhole.JsonLiterals

/-!
# Parts, names and suggestions

`create_capability_name` joins its parts with dots, without escaping any.  `_safe_normalize` strips
a name and its parts and lowers it.

* `created_splits`: a name that is created splits into the parts it was made of;
* `normalizeWith_idem`: a normal form is its own normal form;
* `names_roundTrip`: both, and what is suggested is accepted as it is. -/

namespace KeyholeNames

open KeyholeJson KeyholeNamespace KeyholeGrammar

/-! ## Created names -/

/-- There is one part more than there are separators. -/
theorem length_splitOn (sep : Char) (text : Text) :
    (splitOn sep text).length = text.count sep + 1 := by
  induction text with
  | nil => rfl
  | cons c rest ih =>
    by_cases hc : c = sep
    · subst hc
      rw [splitOn_sep, List.length_cons, ih, List.count_cons_self]
    · rw [List.count_cons_of_ne hc, ← ih]
      cases hsplit : splitOn sep rest with
      | nil => exact absurd hsplit (splitOn_ne_nil rest)
      | cons part parts =>
        rw [splitOn_cons hc hsplit]
        rfl

/-- Four parts that make an accepted name hold no dot. -/
theorem parts_of_accepted {d c p v : Text} (h : validateRaw (dotted d c p v) = true) :
    splitOn '.' (dotted d c p v) = [d, c, p, v] := by
  obtain ⟨d', c', p', v', hname, hparts⟩ := (validateRaw_iff _).mp h
  have hlength := length_splitOn '.' (dotted d c p v)
  rw [hname, hparts.splitOn, ← hname] at hlength
  have hcount : (dotted d c p v).count '.'
      = d.count '.' + (c.count '.' + (p.count '.' + v.count '.' + 1) + 1) + 1 := by
    unfold dotted
    rw [List.count_append, List.count_cons_self, List.count_append, List.count_cons_self,
      List.count_append, List.count_cons_self]
    omega
  rw [hcount] at hlength
  have hfour : [d', c', p', v'].length = 4 := rfl
  have hnone : ∀ part : Text, part.count '.' = 0 → '.' ∉ part := fun part => List.count_eq_zero.mp
  exact splitOn_dotted (hnone d (by omega)) (hnone c (by omega)) (hnone p (by omega))
    (hnone v (by omega))

/-- A name that is created splits into the parts it was made of. -/
theorem created_splits {casing : Casing} {d c p name : Text} {m : Int}
    (h : createCapabilityName casing d c p m = some name) :
    splitOn '.' name = [d, c, p, 'v' :: (toString m).toList] := by
  replace h : (if (validation casing (dotted d c p ('v' :: (toString m).toList))).valid = true
    then some (dotted d c p ('v' :: (toString m).toList)) else none) = some name := h
  by_cases hvalid : (validation casing (dotted d c p ('v' :: (toString m).toList))).valid = true
  · rw [if_pos hvalid] at h
    rw [← Option.some.inj h]
    rw [validation_valid] at hvalid
    exact parts_of_accepted hvalid
  · rw [if_neg hvalid] at h
    exact nomatch h

/-! ## Normal forms -/

/-- No blank at either end. -/
structure Trimmed (text : Text) : Prop where
  first : ∀ c ∈ text.head?, isSpace c = false
  last : ∀ c ∈ text.getLast?, isSpace c = false

variable {text image part : Text} {parts images : List Text}

theorem dropWhile_of_first (h : ∀ c ∈ text.head?, isSpace c = false) :
    text.dropWhile isSpace = text := by
  cases text with
  | nil => rfl
  | cons c rest => exact List.dropWhile_cons_of_neg (by rw [h c rfl]; exact Bool.false_ne_true)

theorem first_of_dropWhile (text : Text) :
    ∀ c ∈ (text.dropWhile isSpace).head?, isSpace c = false := by
  intro c hc
  have hnot := List.head?_dropWhile_not isSpace text
  rw [Option.mem_def.mp hc] at hnot
  exact hnot

theorem stripText_of_trimmed (h : Trimmed text) : stripText text = text := by
  unfold stripText
  rw [dropWhile_of_first h.first, dropWhile_of_first, List.reverse_reverse]
  rw [List.head?_reverse]
  exact h.last

/-- What is stripped has no blank at either end. -/
theorem trimmed_stripText (text : Text) : Trimmed (stripText text) := by
  unfold stripText
  constructor
  · intro c hc
    rw [List.head?_reverse] at hc
    -- the last character that is left is the last of the reversed text
    obtain ⟨dropped, hsplit⟩ := List.dropWhile_suffix isSpace
      (l := (text.dropWhile isSpace).reverse)
    have hlast : c ∈ (text.dropWhile isSpace).reverse.getLast? := by
      rw [← hsplit, List.getLast?_append, Option.mem_def.mp hc]
      rfl
    rw [List.getLast?_reverse] at hlast
    exact first_of_dropWhile text c hlast
  · rw [List.getLast?_reverse]
    exact first_of_dropWhile _

theorem trimmed_nil : Trimmed [] := ⟨nofun, nofun⟩

/-- Trimmed parts are joined to a trimmed text. -/
theorem trimmed_joinOn (h : ∀ part ∈ parts, Trimmed part) :
    Trimmed (joinOn '.' parts) := by
  have hdot : isSpace '.' = false := by decide
  induction parts with
  | nil => exact trimmed_nil
  | cons part rest ih =>
    have hpart := h part List.mem_cons_self
    by_cases hrest : rest = []
    · subst hrest
      exact hpart
    · have hjoined := ih fun q hq => h q (List.mem_cons_of_mem _ hq)
      rw [joinOn_cons part hrest]
      constructor
      · intro c hc
        rw [List.head?_append] at hc
        cases hhead : part.head? with
        | some d =>
          rw [hhead] at hc
          exact hpart.first c (hhead ▸ hc)
        | none =>
          rw [hhead] at hc
          rw [← Option.some.inj hc]
          exact hdot
      · intro c hc
        rw [List.getLast?_append, List.getLast?_cons] at hc
        cases hlast : (joinOn '.' rest).getLast? with
        | some d =>
          rw [hlast] at hc
          exact hjoined.last c (hlast ▸ hc)
        | none =>
          rw [hlast] at hc
          rw [← Option.some.inj hc]
          exact hdot

/-- Neither blanks at its ends, nor around its dots. -/
def Tidy (text : Text) : Prop := ∀ part ∈ splitOn '.' text, Trimmed part

theorem Tidy.trimmed (h : Tidy text) : Trimmed text := by
  rw [← (@splitOn_spec '.' text).1]
  exact trimmed_joinOn h

/-- Normalizing a tidy text lowers it. -/
theorem normalizeWith_of_tidy (casing : Casing) (h : Tidy text) :
    normalizeWith casing text = casing.lower text := by
  unfold normalizeWith
  rw [stripText_of_trimmed h.trimmed,
    List.map_congr_left fun part hpart => stripText_of_trimmed (h part hpart),
    List.map_id', (@splitOn_spec '.' text).1]

/-- The parts of a text, stripped and joined, are tidy. -/
theorem tidy_stripped (text : Text) : Tidy (joinOn '.' ((splitOn '.' text).map stripText)) := by
  have hdotless : ∀ part ∈ (splitOn '.' text).map stripText, '.' ∉ part := by
    intro part hpart hdot
    obtain ⟨q, hq, rfl⟩ := List.mem_map.mp hpart
    have hsub : stripText q ⊆ q := by
      intro c hc
      unfold stripText at hc
      exact (List.dropWhile_suffix _).subset (List.mem_reverse.mp
        ((List.dropWhile_suffix _).subset (List.mem_reverse.mp hc)))
    exact (@splitOn_spec '.' text).2 q hq (hsub hdot)
  intro part hpart
  rw [splitOn_joinOn (by simpa using splitOn_ne_nil text) hdotless] at hpart
  obtain ⟨q, -, rfl⟩ := List.mem_map.mp hpart
  exact trimmed_stripText q

/-- A part and what lowering makes of it. -/
def LoweredPart (part image : Text) : Prop :=
  ∃ images, List.Forall₂ LowersTo part images ∧ image = images.flatten

theorem lowersTo_dot (h : LowersTo '.' image) : image = ['.'] := by
  unfold LowersTo at h
  rwa [if_pos (.inr rfl)] at h

/-- What is left of a character that is no dot is there, and holds no dot. -/
theorem lowersTo_plain {c : Char} (h : LowersTo c image) (hc : c ≠ '.') :
    image ≠ [] ∧ '.' ∉ image := by
  unfold LowersTo at h
  by_cases hblank : isSpace c = true ∨ c = '.'
  · rw [if_pos hblank] at h
    subst h
    exact ⟨List.cons_ne_nil _ _, fun hmem => hc (List.mem_singleton.mp hmem).symm⟩
  · rw [if_neg hblank] at h
    exact ⟨h.1, fun hmem => (h.2 '.' hmem).2 rfl⟩

theorem lowersTo_no_blank {c : Char} (h : LowersTo c image)
    (hc : isSpace c = false) : ∀ d ∈ image, isSpace d = false := by
  unfold LowersTo at h
  by_cases hdot : c = '.'
  · rw [if_pos (.inr hdot)] at h
    subst h
    intro d hd
    rw [List.mem_singleton.mp hd]
    exact hc
  · rw [if_neg (by rw [hc, not_or]; exact ⟨Bool.false_ne_true, hdot⟩)] at h
    exact fun d hd => (h.2 d hd).1

/-- A dotless text in front goes to the first part. -/
theorem splitOn_append_front {front : Text} (h : '.' ∉ front) {rest : Text}
    (hrest : splitOn '.' rest = part :: parts) :
    splitOn '.' (front ++ rest) = (front ++ part) :: parts := by
  induction front with
  | nil => exact hrest
  | cons c front ih =>
    have hc : c ≠ '.' := fun e => h (e ▸ List.mem_cons_self)
    exact splitOn_cons hc (ih fun hmem => h (List.mem_cons_of_mem _ hmem))

/-- Lowering works part by part. -/
theorem splitOn_lowered (h : List.Forall₂ LowersTo text images) :
    List.Forall₂ LoweredPart (splitOn '.' text) (splitOn '.' images.flatten) := by
  induction h with
  | nil => exact .cons ⟨[], .nil, rfl⟩ .nil
  | @cons c image rest images hc hrest ih =>
    rw [List.flatten_cons]
    by_cases hdot : c = '.'
    · subst hdot
      rw [lowersTo_dot hc, splitOn_sep]
      show List.Forall₂ LoweredPart _ (splitOn '.' ('.' :: images.flatten))
      rw [splitOn_sep]
      exact .cons ⟨[], .nil, rfl⟩ ih
    · cases hsplit : splitOn '.' rest with
      | nil => exact absurd hsplit (splitOn_ne_nil rest)
      | cons part parts =>
        cases hsplit' : splitOn '.' images.flatten with
        | nil => exact absurd hsplit' (splitOn_ne_nil _)
        | cons part' parts' =>
          rw [hsplit, hsplit'] at ih
          rw [splitOn_cons hdot hsplit, splitOn_append_front (lowersTo_plain hc hdot).2 hsplit']
          cases ih with
          | cons hpart hparts =>
            obtain ⟨imgs, himgs, rfl⟩ := hpart
            exact .cons ⟨image :: imgs, .cons hc himgs, rfl⟩ hparts

/-- The last character that lowering leaves is none that was blank. -/
theorem last_lowered (h : List.Forall₂ LowersTo part images)
    (hdot : '.' ∉ part) (hlast : ∀ c ∈ part.getLast?, isSpace c = false) :
    ∀ d ∈ images.flatten.getLast?, isSpace d = false := by
  induction h with
  | nil => exact nofun
  | @cons c image rest images hc hrest ih =>
    intro d hd
    rw [List.flatten_cons, List.getLast?_append] at hd
    cases hrest with
    | nil =>
      have himage : d ∈ image.getLast? := hd
      exact lowersTo_no_blank hc (hlast c rfl) d (List.mem_of_getLast? himage)
    | @cons c' image' rest' images' hc' hrest' =>
      have hdot' : '.' ∉ c' :: rest' := fun hmem => hdot (List.mem_cons_of_mem _ hmem)
      have hne : (image' :: images').flatten ≠ [] := by
        rw [List.flatten_cons]
        exact List.append_ne_nil_of_left_ne_nil
          (lowersTo_plain hc' fun e => hdot' (e ▸ List.mem_cons_self)).1 _
      refine ih hdot' (fun e he => hlast e (by rw [List.getLast?_cons_cons]; exact he)) d ?_
      rw [List.getLast?_eq_some_getLast hne] at hd ⊢
      exact hd

/-- A lowered part has no blank at either end if the part has none. -/
theorem Trimmed.lowered (h : Trimmed part) (hdot : '.' ∉ part)
    (hlow : LoweredPart part image) : Trimmed image := by
  obtain ⟨images, himages, rfl⟩ := hlow
  refine ⟨?_, last_lowered himages hdot h.last⟩
  cases himages with
  | nil => exact nofun
  | @cons c img rest imgs hc hrest =>
    have hne := (lowersTo_plain hc fun e => hdot (e ▸ List.mem_cons_self)).1
    intro d hd
    rw [List.flatten_cons, List.head?_append_of_ne_nil _ hne] at hd
    exact lowersTo_no_blank hc (h.first c rfl) d (List.mem_of_head? hd)

theorem exists_of_forall₂ {R : Text → Text → Prop}
    (h : List.Forall₂ R parts images) (hmem : image ∈ images) :
    ∃ part ∈ parts, R part image := by
  induction h with
  | nil => exact nomatch hmem
  | @cons part img parts imgs hhead hrest ih =>
    rcases List.mem_cons.mp hmem with rfl | hmem
    · exact ⟨part, List.mem_cons_self, hhead⟩
    · obtain ⟨q, hq, hrel⟩ := ih hmem
      exact ⟨q, List.mem_cons_of_mem _ hq, hrel⟩

/-- Lowering keeps a text tidy. -/
theorem Tidy.lower (casing : Casing) (h : Tidy text) : Tidy (casing.lower text) := by
  obtain ⟨images, himages, hlower⟩ := casing.lower_images text
  rw [hlower]
  intro image himage
  obtain ⟨part, hpart, hlow⟩ := exists_of_forall₂ (splitOn_lowered himages) himage
  exact (h part hpart).lowered ((@splitOn_spec '.' text).2 part hpart) hlow

/-- A normal form is its own normal form. -/
theorem normalizeWith_idem (casing : Casing) (name : Text) :
    normalizeWith casing (normalizeWith casing name) = normalizeWith casing name := by
  have htidy : Tidy (normalizeWith casing name) := (tidy_stripped _).lower casing
  rw [normalizeWith_of_tidy casing htidy]
  unfold normalizeWith
  rw [casing.lower_lower]

/-! ## Parts, names and suggestions -/

/-- A suggestion is accepted, differs from the name, and is not corrected again. -/
theorem suggestion_sound {casing : Casing} {name : Text}
    (h : suggestion casing name ≠ []) :
    validateRaw (suggestion casing name) = true ∧ suggestion casing name ≠ name := by
  unfold suggestion at h ⊢
  by_cases hempty : (normalizeWith casing name).isEmpty = true
  · simp only [if_pos hempty] at h
    exact absurd rfl h
  simp only [if_neg hempty] at h ⊢
  by_cases hgood : ((rawReasons casing (normalizeWith casing name)).isEmpty
      && normalizeWith casing name != name) = true
  · rw [if_pos hgood]
    rw [Bool.and_eq_true, rawReasons_isEmpty, bne_iff_ne] at hgood
    exact hgood
  · rw [if_neg hgood] at h
    exact absurd rfl h

/-- **Names and suggestions round-trip.** -/
theorem names_roundTrip (casing : Casing) :
    (∀ d c p m name, createCapabilityName casing d c p m = some name →
      splitOn '.' name = [d, c, p, 'v' :: (toString m).toList]) ∧
    (∀ d c p m d' c' p' m' name, createCapabilityName casing d c p m = some name →
      createCapabilityName casing d' c' p' m' = some name →
      d = d' ∧ c = c' ∧ p = p' ∧ m = m') ∧
    (∀ name, (validation casing name).valid = false →
      (validation casing name).suggestion ≠ [] →
      (validation casing (validation casing name).suggestion).valid = true ∧
      (validation casing name).suggestion ≠ name ∧
      (validation casing (validation casing name).suggestion).suggestion = []) ∧
    (∀ name, normalizeWith casing (normalizeWith casing name) = normalizeWith casing name) := by
  refine ⟨fun d c p m name => created_splits, ?_, ?_, normalizeWith_idem casing⟩
  · intro d c p m d' c' p' m' name h h'
    have hsame := (created_splits h).symm.trans (created_splits h')
    simp only [List.cons.injEq, and_true, true_and] at hsame
    obtain ⟨hd, hc, hp, hm⟩ := hsame
    exact ⟨hd, hc, hp, int_agree hm⟩
  · intro name hinvalid hsome
    have hnot : ¬ validateRaw name = true := by
      rw [← validation_valid casing, hinvalid]
      exact Bool.false_ne_true
    have hsuggestion : (validation casing name).suggestion = suggestion casing name := by
      rw [validation_of_invalid hnot]
    rw [hsuggestion] at hsome ⊢
    obtain ⟨hvalid, hne⟩ := suggestion_sound hsome
    rw [validation_of_valid hvalid]
    exact ⟨rfl, hne, rfl⟩

end KeyholeNames
