import Keyhole.LastWrite
import Mathlib.Data.List.Nodup
import Mathlib.Data.List.Perm.Subperm
import Mathlib.Data.Nat.Init
import Mathlib.Logic.Relation

/-!
# Parent links without a cycle

A list of links, each from an element to its parent, one for an element.  Where following the
links never comes back, every element has one root, and the descendants of the roots are
apart.

* `up`: the ancestors of an element; `collect`: the descendants of one;
* `Forest`: one parent each and no cycle; `collect_of_length_le`: the descendants are collected
  in as many rounds as there are links;
* `exists_root`, `root_unique`: the root of an element;
* `partition`: each element is in the family of one root;
* `collapse`: linking every element to its root leaves the roots and their descendants. -/

namespace ParentForest

open LastWrite

variable {α : Type} [DecidableEq α]

/-- The ancestor so many links up. -/
def up (links : List (α × α)) : Nat → α → Option α
  | 0, a => some a
  | k + 1, a => (links.lookup a).bind (up links k)

/-- The elements below `root`, each before what is below it, in at most so many rounds. -/
def collect (links : List (α × α)) : Nat → α → List α
  | 0, _ => []
  | fuel + 1, root =>
      links.flatMap fun link =>
        if link.2 = root ∧ link.1 ≠ root then link.1 :: collect links fuel link.1 else []

/-- One parent each, and no element above itself. -/
structure Forest (links : List (α × α)) : Prop where
  single : (links.map Prod.fst).Nodup
  acyclic : ∀ a k, up links (k + 1) a ≠ some a

/-- `r` has no parent, and `a` is `r` or below it. -/
def IsRootOf (links : List (α × α)) (a r : α) : Prop :=
  (∃ k, up links k a = some r) ∧ links.lookup r = none

section Links

variable {links : List (α × α)} {a b r : α}

/-! ## Ancestors -/

theorem up_add (j k : Nat) (a : α) : up links (j + k) a = (up links j a).bind (up links k) := by
  induction j generalizing a with
  | zero => rw [Nat.zero_add, up, Option.bind_some]
  | succ j ih =>
    rw [Nat.succ_add, up, up]
    cases links.lookup a with
    | none => rfl
    | some p =>
      rw [Option.bind_some, Option.bind_some]
      exact ih p

/-- The last link of a way up. -/
theorem up_succ (k : Nat) (a : α) :
    up links (k + 1) a = (up links k a).bind fun b => links.lookup b := by
  rw [up_add]
  refine congrArg (Option.bind (up links k a)) (funext fun b => ?_)
  rw [up]
  cases links.lookup b with
  | none => rfl
  | some p => rfl

/-- Every element on the way up but the last has a link. -/
theorem lookup_of_up {j k : Nat} (h : up links k a = some b) (hjk : j < k) :
    ∃ c p, up links j a = some c ∧ links.lookup c = some p := by
  obtain ⟨d, rfl⟩ := Nat.exists_eq_add_of_lt hjk
  rw [Nat.add_assoc, up_add] at h
  obtain ⟨c, hc, hup⟩ := Option.bind_eq_some_iff.mp h
  rw [up] at hup
  obtain ⟨p, hp, -⟩ := Option.bind_eq_some_iff.mp hup
  exact ⟨c, p, hc, hp⟩

theorem Forest.up_injective (h : Forest links) {j k : Nat} {c : α}
    (hj : up links j a = some c) (hk : up links k a = some c) : j = k := by
  rcases Nat.lt_trichotomy j k with hlt | heq | hgt
  · obtain ⟨d, rfl⟩ := Nat.exists_eq_add_of_lt hlt
    rw [Nat.add_assoc, up_add, hj] at hk
    exact absurd hk (h.acyclic c d)
  · exact heq
  · obtain ⟨d, rfl⟩ := Nat.exists_eq_add_of_lt hgt
    rw [Nat.add_assoc, up_add, hk] at hj
    exact absurd hj (h.acyclic c d)

/-- A way up is no longer than the list of links: its elements are apart, and each but the
    last has a link. -/
theorem Forest.up_le (h : Forest links) {k : Nat} (hup : up links k a = some b) :
    k ≤ links.length := by
  let way := (List.range k).map fun j => (up links j a).getD a
  have hway : ∀ j < k, ∃ c p, up links j a = some c ∧ links.lookup c = some p :=
    fun j hj => lookup_of_up hup hj
  have hnodup : way.Nodup := by
    refine List.Nodup.map_on ?_ List.nodup_range
    intro i hi j hj hsame
    obtain ⟨c, -, hc, -⟩ := hway i (List.mem_range.mp hi)
    obtain ⟨d, -, hd, -⟩ := hway j (List.mem_range.mp hj)
    rw [hc, hd, Option.getD_some, Option.getD_some] at hsame
    rw [hsame] at hc
    exact h.up_injective hc hd
  have hsubset : way ⊆ links.map Prod.fst := by
    intro c hc
    obtain ⟨j, hj, rfl⟩ := List.mem_map.mp hc
    obtain ⟨d, p, hd, hp⟩ := hway j (List.mem_range.mp hj)
    rw [hd, Option.getD_some]
    exact List.mem_map.mpr ⟨_, mem_of_lookup hp, rfl⟩
  have hlength := (List.subperm_of_subset hnodup hsubset).length_le
  rw [List.length_map, List.length_range, List.length_map] at hlength
  exact hlength

/-- Every element has a root. -/
theorem Forest.exists_root (h : Forest links) (a : α) : ∃ r, IsRootOf links a r := by
  by_contra hnone
  -- otherwise there is a way up of any length
  have hlong : ∀ k, ∃ b, up links k a = some b := by
    intro k
    induction k with
    | zero => exact ⟨a, rfl⟩
    | succ k ih =>
      obtain ⟨b, hb⟩ := ih
      cases hp : links.lookup b with
      | none => exact absurd ⟨b, ⟨k, hb⟩, hp⟩ hnone
      | some p => exact ⟨p, by rw [up_succ, hb, Option.bind_some, hp]⟩
  obtain ⟨b, hb⟩ := hlong (links.length + 1)
  exact absurd (h.up_le hb) (Nat.not_succ_le_self _)

/-- A root is at the end of every way up that reaches it. -/
theorem up_of_root {j k : Nat} (hroot : links.lookup r = none) (hr : up links j a = some r)
    (hb : up links k a = some b) : k ≤ j := by
  by_contra hlt
  obtain ⟨c, p, hc, hp⟩ := lookup_of_up hb (Nat.lt_of_not_le hlt)
  rw [hr] at hc
  cases hc
  exact nomatch hroot.symm.trans hp

theorem root_unique {r' : α} (h : IsRootOf links a r) (h' : IsRootOf links a r') : r = r' := by
  obtain ⟨⟨j, hj⟩, hroot⟩ := h
  obtain ⟨⟨k, hk⟩, hroot'⟩ := h'
  have hsame : k = j := Nat.le_antisymm (up_of_root hroot hj hk) (up_of_root hroot' hk hj)
  rw [hsame, hj] at hk
  exact Option.some.inj hk

theorem isRootOf_self (h : links.lookup r = none) : IsRootOf links r r := ⟨⟨0, rfl⟩, h⟩

/-! ## Descendants -/

theorem mem_collect_succ {fuel : Nat} {root x : α} : x ∈ collect links (fuel + 1) root ↔
    ∃ c, (c, root) ∈ links ∧ c ≠ root ∧ (x = c ∨ x ∈ collect links fuel c) := by
  rw [collect, List.mem_flatMap]
  constructor
  · rintro ⟨⟨c, p⟩, hlink, hx⟩
    by_cases hchild : p = root ∧ c ≠ root
    · rw [if_pos hchild] at hx
      obtain ⟨rfl, hne⟩ := hchild
      exact ⟨c, hlink, hne, List.mem_cons.mp hx⟩
    · rw [if_neg hchild] at hx
      exact absurd hx List.not_mem_nil
  · rintro ⟨c, hlink, hne, hx⟩
    refine ⟨(c, root), hlink, ?_⟩
    rw [if_pos ⟨rfl, hne⟩]
    exact List.mem_cons.mpr hx

/-- What is collected below an element: what has it above, at most so many links up. -/
theorem Forest.mem_collect (h : Forest links) {fuel : Nat} {root x : α} :
    x ∈ collect links fuel root ↔ ∃ k, 0 < k ∧ k ≤ fuel ∧ up links k x = some root := by
  induction fuel generalizing root with
  | zero =>
    constructor
    · intro hx
      exact absurd hx List.not_mem_nil
    · rintro ⟨k, hpos, hle, -⟩
      exact absurd hle (Nat.not_le_of_lt hpos)
  | succ fuel ih =>
    rw [mem_collect_succ]
    constructor
    · rintro ⟨c, hlink, -, rfl | hx⟩
      · refine ⟨1, Nat.one_pos, Nat.succ_le_succ (Nat.zero_le fuel), ?_⟩
        rw [up, lookup_of_mem h.single hlink]
        rfl
      · obtain ⟨k, -, hle, hup⟩ := ih.mp hx
        refine ⟨k + 1, Nat.succ_pos k, Nat.succ_le_succ hle, ?_⟩
        rw [up_succ, hup]
        exact lookup_of_mem h.single hlink
    · rintro ⟨k, hpos, hle, hup⟩
      obtain ⟨k, rfl⟩ := Nat.exists_eq_succ_of_ne_zero (Nat.pos_iff_ne_zero.mp hpos)
      rw [Nat.succ_eq_add_one, up_succ] at hup
      obtain ⟨c, hc, hp⟩ := Option.bind_eq_some_iff.mp hup
      have hne : c ≠ root := by
        rintro rfl
        refine h.acyclic c 0 ?_
        rw [up, hp]
        rfl
      refine ⟨c, mem_of_lookup hp, hne, ?_⟩
      cases k with
      | zero => exact .inl (Option.some.inj hc)
      | succ k => exact .inr (ih.mpr ⟨k + 1, Nat.succ_pos k, Nat.le_of_succ_le_succ hle, hc⟩)

/-- In as many rounds as there are links, everything below an element is collected. -/
theorem Forest.mem_collect_all (h : Forest links) {root x : α} :
    x ∈ collect links links.length root ↔ ∃ k, up links (k + 1) x = some root := by
  rw [h.mem_collect]
  constructor
  · rintro ⟨k, hpos, -, hup⟩
    obtain ⟨k, rfl⟩ := Nat.exists_eq_succ_of_ne_zero (Nat.pos_iff_ne_zero.mp hpos)
    exact ⟨k, hup⟩
  · rintro ⟨k, hup⟩
    exact ⟨k + 1, Nat.succ_pos k, h.up_le hup, hup⟩

/-- More rounds collect nothing more. -/
theorem Forest.collect_of_length_le (h : Forest links) {fuel : Nat} (hfuel : links.length ≤ fuel)
    (root : α) : collect links fuel root = collect links links.length root := by
  -- one more round adds nothing where no way up is that long
  have hround : ∀ n root, (∀ x, up links (n + 1) x ≠ some root) →
      collect links (n + 1) root = collect links n root := by
    intro n
    induction n with
    | zero =>
      intro root hshort
      refine List.flatMap_eq_nil_iff.mpr fun link hlink => if_neg fun hchild => ?_
      refine hshort link.1 ?_
      rw [up, lookup_of_mem h.single hlink, hchild.1]
      rfl
    | succ n ih =>
      intro root hshort
      rw [collect, collect]
      refine List.flatMap_congr fun link hlink => ?_
      by_cases hchild : link.2 = root ∧ link.1 ≠ root
      · rw [if_pos hchild, if_pos hchild]
        refine congrArg (List.cons link.1) (ih link.1 fun x hx => hshort x ?_)
        rw [up_succ, hx, Option.bind_some, lookup_of_mem h.single hlink, hchild.1]
      · rw [if_neg hchild, if_neg hchild]
  induction fuel, hfuel using Nat.le_induction with
  | base => rfl
  | succ n hn ih =>
    rw [hround n root fun x hx => absurd (h.up_le hx) (Nat.not_le_of_lt (Nat.lt_succ_of_le hn))]
    exact ih

/-- Nothing is collected twice. -/
theorem Forest.nodup_collect (h : Forest links) (fuel : Nat) (root : α) :
    (collect links fuel root).Nodup := by
  induction fuel generalizing root with
  | zero => exact List.nodup_nil
  | succ fuel ih =>
    refine List.nodup_flatMap.mpr ⟨fun link _ => ?_, ?_⟩
    · by_cases hchild : link.2 = root ∧ link.1 ≠ root
      · rw [if_pos hchild]
        refine List.nodup_cons.mpr ⟨fun hmem => ?_, ih link.1⟩
        obtain ⟨k, hpos, -, hup⟩ := h.mem_collect.mp hmem
        exact absurd (h.up_injective (j := 0) rfl hup) (Nat.ne_of_lt hpos)
      · rw [if_neg hchild]
        exact List.nodup_nil
    · refine (List.pairwise_map.mp h.single).imp_of_mem ?_
      intro link link' hlink hlink' hne
      show List.Disjoint _ _
      intro x hx hx'
      -- the ways from `x` through the two children reach the same parent
      have hway : ∀ l ∈ links, x ∈ (if l.2 = root ∧ l.1 ≠ root then
          l.1 :: collect links fuel l.1 else []) →
            ∃ k, up links k x = some l.1 ∧ up links (k + 1) x = some root := by
        intro l hl hxl
        by_cases hchild : l.2 = root ∧ l.1 ≠ root
        · rw [if_pos hchild] at hxl
          have hreach : ∃ k, up links k x = some l.1 := by
            rcases List.mem_cons.mp hxl with rfl | hbelow
            · exact ⟨0, rfl⟩
            · obtain ⟨k, -, -, hup⟩ := h.mem_collect.mp hbelow
              exact ⟨k, hup⟩
          obtain ⟨k, hk⟩ := hreach
          refine ⟨k, hk, ?_⟩
          rw [up_succ, hk, Option.bind_some, lookup_of_mem h.single hl, hchild.1]
        · rw [if_neg hchild] at hxl
          exact absurd hxl List.not_mem_nil
      obtain ⟨j, hj, hjroot⟩ := hway link hlink hx
      obtain ⟨k, hk, hkroot⟩ := hway link' hlink' hx'
      have hsame : j = k := Nat.succ.inj (h.up_injective hjroot hkroot)
      rw [hsame, hk] at hj
      exact hne (Option.some.inj hj).symm

/-- What is below a root is what has a link and that root. -/
theorem Forest.mem_below_root (h : Forest links) {x : α} (hroot : links.lookup r = none) :
    x ∈ collect links links.length r ↔ x ∈ links.map Prod.fst ∧ IsRootOf links x r := by
  rw [h.mem_collect_all]
  constructor
  · rintro ⟨k, hup⟩
    refine ⟨?_, ⟨⟨k + 1, hup⟩, hroot⟩⟩
    by_contra hmem
    rw [up, lookup_eq_none.mpr hmem] at hup
    exact nomatch hup
  · rintro ⟨hmem, ⟨k, hup⟩, -⟩
    cases k with
    | zero =>
      rw [Option.some.inj hup] at hmem
      exact absurd hmem (lookup_eq_none.mp hroot)
    | succ k => exact ⟨k, hup⟩

/-- The family of a root: what has that root. -/
theorem Forest.mem_family (h : Forest links) {x : α} (hroot : links.lookup r = none) :
    x ∈ r :: collect links links.length r ↔ IsRootOf links x r := by
  rw [List.mem_cons, h.mem_below_root hroot]
  constructor
  · rintro (rfl | ⟨-, hx⟩)
    · exact isRootOf_self hroot
    · exact hx
  · intro hx
    by_cases hlinked : x ∈ links.map Prod.fst
    · exact .inr ⟨hlinked, hx⟩
    · exact .inl (root_unique (isRootOf_self (lookup_eq_none.mpr hlinked)) hx)

/-- The families of the roots hold every element once. -/
theorem Forest.partition (h : Forest links) {names : List α} (hnames : names.Nodup)
    (hclosed : ∀ c p, (c, p) ∈ links → c ∈ names ∧ p ∈ names) {roots : List α}
    (hroots : roots.Perm (names.filter fun name => name ∉ links.map Prod.fst)) :
    (roots.flatMap fun r => r :: collect links links.length r).Perm names := by
  have hroot : ∀ r ∈ roots, r ∈ names ∧ links.lookup r = none := by
    intro r hr
    obtain ⟨hname, hfree⟩ := List.mem_filter.mp (hroots.mem_iff.mp hr)
    exact ⟨hname, lookup_eq_none.mpr (of_decide_eq_true hfree)⟩
  have hnodup : (roots.flatMap fun r => r :: collect links links.length r).Nodup := by
    refine List.nodup_flatMap.mpr ⟨fun r hr => ?_, ?_⟩
    · refine List.nodup_cons.mpr ⟨fun hmem => ?_, h.nodup_collect _ r⟩
      exact lookup_eq_none.mp (hroot r hr).2 ((h.mem_below_root (hroot r hr).2).mp hmem).1
    · refine List.Pairwise.imp_of_mem ?_ (hroots.nodup_iff.mpr (hnames.filter _))
      intro r r' hr hr' hne
      show List.Disjoint _ _
      intro x hx hx'
      exact hne (root_unique ((h.mem_family (hroot r hr).2).mp hx)
        ((h.mem_family (hroot r' hr').2).mp hx'))
  refine (List.perm_ext_iff_of_nodup hnodup hnames).mpr fun x => ?_
  rw [List.mem_flatMap]
  constructor
  · rintro ⟨r, hr, hx⟩
    rcases List.mem_cons.mp hx with rfl | hbelow
    · exact (hroot x hr).1
    · obtain ⟨hlinked, -⟩ := (h.mem_below_root (hroot r hr).2).mp hbelow
      obtain ⟨⟨c, p⟩, hlink, rfl⟩ := List.mem_map.mp hlinked
      exact (hclosed c p hlink).1
  · intro hx
    obtain ⟨r, hr⟩ := h.exists_root x
    refine ⟨r, hroots.mem_iff.mpr (List.mem_filter.mpr ⟨?_, ?_⟩), (h.mem_family hr.2).mpr hr⟩
    · -- the root is the element itself, or the parent of one
      obtain ⟨⟨k, hup⟩, -⟩ := hr
      cases k with
      | zero =>
        rw [← Option.some.inj hup]
        exact hx
      | succ k =>
        rw [up_succ] at hup
        obtain ⟨c, -, hp⟩ := Option.bind_eq_some_iff.mp hup
        exact (hclosed c r (mem_of_lookup hp)).2
    · exact decide_eq_true (lookup_eq_none.mp hr.2)

/-! ## Relations without a cycle -/

variable {R : α → α → Prop}

/-- Links of a relation lead up along it. -/
theorem transGen_of_up (hlinks : ∀ c p, (c, p) ∈ links → R c p) {k : Nat}
    (h : up links (k + 1) a = some b) : Relation.TransGen R a b := by
  induction k generalizing b with
  | zero =>
    rw [up_succ] at h
    obtain ⟨c, hc, hp⟩ := Option.bind_eq_some_iff.mp h
    cases hc
    exact .single (hlinks a b (mem_of_lookup hp))
  | succ k ih =>
    rw [up_succ] at h
    obtain ⟨c, hc, hp⟩ := Option.bind_eq_some_iff.mp h
    exact (ih hc).tail (hlinks c b (mem_of_lookup hp))

/-- One link each, all of a relation without a cycle, make a forest. -/
theorem Forest.of_acyclic (hsingle : (links.map Prod.fst).Nodup)
    (hlinks : ∀ c p, (c, p) ∈ links → R c p) (hacyclic : ∀ a, ¬ Relation.TransGen R a a) :
    Forest links :=
  ⟨hsingle, fun a _ hup => hacyclic a (transGen_of_up hlinks hup)⟩

omit [DecidableEq α] in
/-- A relation that lowers a rank has no cycle. -/
theorem acyclic_of_rank (rank : α → Nat) (h : ∀ c p, R c p → rank p < rank c) (a : α) :
    ¬ Relation.TransGen R a a := by
  have hlower : ∀ b, Relation.TransGen R a b → rank b < rank a := by
    intro b hab
    induction hab with
    | single hb => exact h _ _ hb
    | tail _ hbc ih => exact Nat.lt_trans (h _ _ hbc) ih
  exact fun hloop => Nat.lt_irrefl _ (hlower a hloop)

end Links

/-! ## Every element linked to its root -/

section Collapse

variable {links links' : List (α × α)}

/-- Linking every element to its root gives a forest with the same roots and the same elements
    below each. -/
theorem collapse (h : Forest links) (hsingle : (links'.map Prod.fst).Nodup)
    (hlinks : ∀ c p, (c, p) ∈ links' ↔ c ∈ links.map Prod.fst ∧ IsRootOf links c p) :
    Forest links' ∧ (∀ a, a ∈ links'.map Prod.fst ↔ a ∈ links.map Prod.fst) ∧
      ∀ r, links.lookup r = none →
        (collect links' links'.length r).Perm (collect links links.length r) := by
  have hkeys : ∀ a, a ∈ links'.map Prod.fst ↔ a ∈ links.map Prod.fst := by
    intro a
    constructor
    · intro ha
      obtain ⟨⟨c, p⟩, hlink, rfl⟩ := List.mem_map.mp ha
      exact ((hlinks c p).mp hlink).1
    · intro ha
      obtain ⟨r, hr⟩ := h.exists_root a
      exact List.mem_map.mpr ⟨(a, r), (hlinks a r).mpr ⟨ha, hr⟩, rfl⟩
  have hnone : ∀ a, links'.lookup a = none ↔ links.lookup a = none := by
    intro a
    rw [lookup_eq_none, lookup_eq_none, hkeys]
  -- a way up has one link at most
  have hup : ∀ a k b, up links' (k + 1) a = some b → k = 0 ∧ (a, b) ∈ links' := by
    intro a k b hk
    rw [up] at hk
    obtain ⟨p, hp, hrest⟩ := Option.bind_eq_some_iff.mp hk
    have hmem := mem_of_lookup hp
    have hroot : links'.lookup p = none := (hnone p).mpr ((hlinks a p).mp hmem).2.2
    cases k with
    | zero => exact ⟨rfl, Option.some.inj hrest ▸ hmem⟩
    | succ k =>
      rw [up, hroot] at hrest
      exact nomatch hrest
  have hforest : Forest links' := by
    refine ⟨hsingle, fun a k hk => ?_⟩
    obtain ⟨-, hmem⟩ := hup a k a hk
    obtain ⟨hlinked, -, hroot⟩ := (hlinks a a).mp hmem
    exact lookup_eq_none.mp hroot hlinked
  refine ⟨hforest, hkeys, fun r hr => ?_⟩
  refine (List.perm_ext_iff_of_nodup (hforest.nodup_collect _ r) (h.nodup_collect _ r)).mpr ?_
  intro x
  rw [h.mem_below_root hr, hforest.mem_collect_all, ← hlinks]
  constructor
  · rintro ⟨k, hk⟩
    exact (hup x k r hk).2
  · intro hmem
    refine ⟨0, ?_⟩
    rw [up, lookup_of_mem hsingle hmem]
    rfl

end Collapse

end ParentForest
