import Mathlib.Data.List.Infix
import Mathlib.Data.List.DropRight

/-!
# Where a phrase can occur

A phrase occurs in a text when it is a contiguous part of it.  A phrase that does not
contain a separator occurs on one side of it, and a phrase whose ends are no padding
does not notice padding around the text.

* `infix_separated_iff` — occurrence in two parts with a separator in between;
* `infix_dropWhile_iff`, `infix_rdropWhile_iff` — occurrence in a padded text. -/

namespace PhraseSearch

variable {α : Type} {phrase : List α}

theorem front_separated_iff {sep : α} (hsep : sep ∉ phrase) (left right : List α) :
    phrase <+: left ++ sep :: right ↔ phrase <+: left := by
  induction left generalizing phrase with
  | nil =>
    cases phrase with
    | nil => exact ⟨fun _ => List.nil_prefix, fun _ => List.nil_prefix⟩
    | cons a rest =>
      rw [List.nil_append, List.cons_prefix_cons, List.prefix_nil]
      constructor
      · rintro ⟨rfl, -⟩
        exact absurd List.mem_cons_self hsep
      · exact nofun
  | cons b left ih =>
    cases phrase with
    | nil => exact ⟨fun _ => List.nil_prefix, fun _ => List.nil_prefix⟩
    | cons a rest =>
      rw [List.cons_append, List.cons_prefix_cons, List.cons_prefix_cons,
        ih fun h => hsep (List.mem_cons_of_mem _ h)]

/-- A phrase without the separator lies on one side of it. -/
theorem infix_separated_iff {sep : α} (hsep : sep ∉ phrase)
    (left right : List α) :
    phrase <:+: left ++ sep :: right ↔ phrase <:+: left ∨ phrase <:+: right := by
  induction left with
  | nil =>
    rw [List.nil_append, List.infix_cons_iff, List.infix_nil]
    have hfront := front_separated_iff hsep [] right
    rw [List.nil_append, List.prefix_nil] at hfront
    rw [hfront]
  | cons b left ih =>
    rw [List.cons_append, List.infix_cons_iff, ← List.cons_append,
      front_separated_iff hsep, ih, List.infix_cons_iff, or_assoc]

/-- Padding in front of a text is not part of a phrase that starts otherwise. -/
theorem infix_dropWhile_iff {pad : α → Bool} (hfirst : ∀ a ∈ phrase.head?, pad a = false)
    (hne : phrase ≠ []) (text : List α) :
    phrase <:+: text.dropWhile pad ↔ phrase <:+: text := by
  induction text with
  | nil => exact Iff.rfl
  | cons b rest ih =>
    by_cases hb : pad b = true
    · rw [List.dropWhile_cons_of_pos hb, ih, List.infix_cons_iff]
      constructor
      · exact .inr
      · rintro (hfront | hrest)
        · cases phrase with
          | nil => exact absurd rfl hne
          | cons a tail =>
            -- the phrase would start with padding
            obtain ⟨rfl, -⟩ := List.cons_prefix_cons.mp hfront
            exact nomatch hb.symm.trans (hfirst a rfl)
        · exact hrest
    · rw [List.dropWhile_cons_of_neg hb]

/-- Padding behind a text is not part of a phrase that ends otherwise. -/
theorem infix_rdropWhile_iff {pad : α → Bool} (hlast : ∀ a ∈ phrase.getLast?, pad a = false)
    (hne : phrase ≠ []) (text : List α) :
    phrase <:+: text.rdropWhile pad ↔ phrase <:+: text := by
  have hfirst : ∀ a ∈ phrase.reverse.head?, pad a = false := by
    intro a ha
    rw [List.head?_reverse] at ha
    exact hlast a ha
  have hne' : phrase.reverse ≠ [] := fun h => hne (List.reverse_eq_nil_iff.mp h)
  rw [← List.reverse_infix, List.rdropWhile, List.reverse_reverse,
    infix_dropWhile_iff hfirst hne', List.reverse_infix]

end PhraseSearch
