import Mathlib.Data.List.Basic

/-!
# Texts with separators between them

Where each text of a list can be read off the front of what follows, the whole list can, as long
as no text begins with the separator or with the sign that closes the list.

* `Ends`: a text that stands behind a word begins with an end sign or is empty;
* `word_agree`: a word without end signs is read up to the first one;
* `separated_agree`: a closed list is read, one text after another. -/

namespace SeparatedText

variable {α β χ : Type}

/-- Nothing follows, or an end sign does. -/
def Ends (stop : χ → Prop) (rest : List χ) : Prop := ∀ c ∈ rest.head?, stop c

theorem ends_cons {stop : χ → Prop} {c : χ} (h : stop c) (rest : List χ) :
    Ends stop (c :: rest) := by
  intro c' hc'
  obtain rfl := Option.some.inj hc'
  exact h

/-- A word without end signs is read up to the first one. -/
theorem word_agree {stop : χ → Prop} : ∀ {word word' rest rest' : List χ},
    (∀ c ∈ word, ¬ stop c) → (∀ c ∈ word', ¬ stop c) → Ends stop rest → Ends stop rest' →
    word ++ rest = word' ++ rest' → word = word' ∧ rest = rest' := by
  intro word
  induction word with
  | nil =>
    intro word' rest rest' _ hword' hrest _ h
    cases word' with
    | nil => exact ⟨rfl, h⟩
    | cons c' word' =>
      rw [List.nil_append, List.cons_append] at h
      subst h
      exact absurd (hrest c' rfl) (hword' c' List.mem_cons_self)
  | cons c word ih =>
    intro word' rest rest' hword hword' hrest hrest' h
    cases word' with
    | nil =>
      rw [List.nil_append, List.cons_append] at h
      subst h
      exact absurd (hrest' c rfl) (hword c List.mem_cons_self)
    | cons c' word' =>
      obtain ⟨rfl, htail⟩ := List.cons.inj h
      obtain ⟨rfl, hsame⟩ := ih (fun d hd => hword d (List.mem_cons_of_mem _ hd))
        (fun d hd => hword' d (List.mem_cons_of_mem _ hd)) hrest hrest' htail
      exact ⟨rfl, hsame⟩

/-- The texts, with a separator between them. -/
def separated (sep : χ) (text : α → List χ) : List α → List χ
  | [] => []
  | [x] => text x
  | x :: y :: rest => text x ++ sep :: separated sep text (y :: rest)

/-- What `x` stands for, and what follows its text, can be read off. -/
def Reads (stop : χ → Prop) (text : α → List χ) (value : α → β) (ok : α → Prop) (x : α) : Prop :=
  ∀ y rest rest', ok y → Ends stop rest → Ends stop rest' →
    text x ++ rest = text y ++ rest' → value x = value y ∧ rest = rest'

section Lists

variable {stop : χ → Prop} {text : α → List χ} {value : α → β} {ok : α → Prop} {sep close : χ}

/-- A list that is not empty does not begin as its end does. -/
theorem separated_ne_close (hfirst : ∀ x, ok x → ∀ rest rest', text x ++ rest ≠ close :: rest')
    {x : α} (hx : ok x) (xs : List α) (rest rest' : List χ) :
    separated sep text (x :: xs) ++ rest ≠ close :: rest' := by
  intro h
  cases xs with
  | nil => exact hfirst x hx _ _ h
  | cons y xs =>
    rw [separated, List.append_assoc] at h
    exact hfirst x hx _ _ h

/-- A closed list is read, one text after another. -/
theorem separated_agree (hsep : stop sep) (hclose : stop close) (hne : sep ≠ close)
    (hfirst : ∀ x, ok x → ∀ rest rest', text x ++ rest ≠ close :: rest') :
    ∀ {xs ys : List α} {rest rest' : List χ}, (∀ x ∈ xs, ok x ∧ Reads stop text value ok x) →
      (∀ y ∈ ys, ok y) →
      separated sep text xs ++ close :: rest = separated sep text ys ++ close :: rest' →
      xs.map value = ys.map value ∧ rest = rest' := by
  intro xs
  induction xs with
  | nil =>
    intro ys rest rest' _ hys h
    cases ys with
    | nil => exact ⟨rfl, (List.cons.inj h).2⟩
    | cons y ys =>
      exact absurd h.symm (separated_ne_close hfirst (hys y List.mem_cons_self) ys _ _)
  | cons x xs ih =>
    intro ys rest rest' hxs hys h
    obtain ⟨hx, hreads⟩ := hxs x List.mem_cons_self
    cases ys with
    | nil => exact absurd h (separated_ne_close hfirst hx xs _ _)
    | cons y ys =>
      have hy := hys y List.mem_cons_self
      cases xs with
      | nil =>
        cases ys with
        | nil =>
          obtain ⟨hvalue, hrest⟩ :=
            hreads y _ _ hy (ends_cons hclose _) (ends_cons hclose _) h
          refine ⟨?_, (List.cons.inj hrest).2⟩
          rw [List.map_singleton, List.map_singleton, hvalue]
        | cons y' ys =>
          rw [separated, separated, List.append_assoc] at h
          obtain ⟨-, hrest⟩ := hreads y _ _ hy (ends_cons hclose _) (ends_cons hsep _) h
          exact absurd (List.cons.inj hrest).1.symm hne
      | cons x' xs =>
        cases ys with
        | nil =>
          rw [separated, separated, List.append_assoc] at h
          obtain ⟨-, hrest⟩ := hreads y _ _ hy (ends_cons hsep _) (ends_cons hclose _) h
          exact absurd (List.cons.inj hrest).1 hne
        | cons y' ys =>
          rw [separated, separated, List.append_assoc, List.append_assoc] at h
          obtain ⟨hvalue, htail⟩ :=
            hreads y _ _ hy (ends_cons hsep _) (ends_cons hsep _) h
          obtain ⟨hvalues, hrest⟩ := ih (fun z hz => hxs z (List.mem_cons_of_mem _ hz))
            (fun z hz => hys z (List.mem_cons_of_mem _ hz)) (List.cons.inj htail).2
          refine ⟨?_, hrest⟩
          rw [List.map_cons, hvalue, hvalues]
          rfl

end Lists

end SeparatedText
