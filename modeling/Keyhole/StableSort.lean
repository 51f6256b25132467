import Mathlib.Data.List.Sort

/-!
# Sorting by a key

A list sorted by a key, elements with equal keys in the order they had.

* `sortOn`: the sort, and what it keeps;
* `pairwise_sortOn`: its order;
* `sortOn_eq_of_perm`: where no two elements share a key, the order of the list does not
  matter. -/

namespace StableSort

universe u v

variable {α : Type u} {κ : Type v} [LinearOrder κ] {key : α → κ} {xs ys : List α}

/-- `xs` sorted by `key`. -/
def sortOn (key : α → κ) (xs : List α) : List α :=
  xs.mergeSort (fun a b => decide (key a ≤ key b))

theorem sortOn_perm (key : α → κ) (xs : List α) : (sortOn key xs).Perm xs :=
  List.mergeSort_perm xs _

@[simp] theorem mem_sortOn {a : α} : a ∈ sortOn key xs ↔ a ∈ xs :=
  (sortOn_perm key xs).mem_iff

/-- An element stands before another one only where its key is not greater. -/
theorem pairwise_sortOn (key : α → κ) (xs : List α) :
    (sortOn key xs).Pairwise (fun a b => key a ≤ key b) := by
  have htrans : ∀ a b c : α, decide (key a ≤ key b) = true → decide (key b ≤ key c) = true →
      decide (key a ≤ key c) = true := by
    intro a b c hab hbc
    exact decide_eq_true (le_trans (of_decide_eq_true hab) (of_decide_eq_true hbc))
  have htotal : ∀ a b : α, (decide (key a ≤ key b) || decide (key b ≤ key a)) = true := by
    intro a b
    rw [Bool.or_eq_true, decide_eq_true_iff, decide_eq_true_iff]
    exact le_total (key a) (key b)
  exact (List.pairwise_mergeSort htrans htotal xs).imp fun h => of_decide_eq_true h

/-- Where no two elements share a key, there is one sorted order. -/
theorem sortOn_eq_of_perm (hperm : ys.Perm xs)
    (hkeys : ∀ a ∈ xs, ∀ b ∈ xs, key a = key b → a = b) : sortOn key ys = sortOn key xs := by
  refine List.Perm.eq_of_pairwise ?_ (pairwise_sortOn key ys) (pairwise_sortOn key xs)
    (((sortOn_perm key ys).trans hperm).trans (sortOn_perm key xs).symm)
  intro a b ha hb hab hba
  exact hkeys a (hperm.mem_iff.mp (mem_sortOn.mp ha)) b (mem_sortOn.mp hb)
    (le_antisymm hab hba)

end StableSort
