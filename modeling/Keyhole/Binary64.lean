import Mathlib.Data.Int.Log
import Mathlib.Data.Rat.Floor
import Mathlib.Tactic.Linarith

/-!
# Doubles as rational numbers

A finite double is the rational number it stands for, and a rational number is rounded to the
nearest double, a tie to the one whose last place is even.

* `roundEven`: the nearest integer; `nearest`: the nearest double;
* `Double`: with the infinities and what is no number;
* `nearest_intCast`: integers of 53 bits are kept. -/

namespace Binary64

/-- The nearest integer, of two the even one. -/
def roundEven (q : ℚ) : ℤ :=
  let low := ⌊q⌋
  if q - low < 1 / 2 then low
  else if 1 / 2 < q - low then low + 1
  else if low % 2 = 0 then low
  else low + 1

/-- The exponent of the last place of the doubles around `q`. -/
def lastPlace (q : ℚ) : ℤ := max (Int.log 2 |q| - 52) (-1074)

/-- `q` in units of the last place, rounded. -/
def rounded (q : ℚ) : ℚ := roundEven (q / 2 ^ lastPlace q) * 2 ^ lastPlace q

/-- The double nearest to `q`, unless it would be too large for one. -/
def nearest (q : ℚ) : Option ℚ := if |rounded q| < 2 ^ 1024 then some (rounded q) else none

/-- The value of a double, without the sign of a zero. -/
inductive Double where
  | finite (q : ℚ)
  | infinite (negative : Bool)
  | nan
  deriving DecidableEq

/-- The double nearest to `q`; what is too large is infinite. -/
def Double.ofRat (q : ℚ) : Double :=
  match nearest q with
  | some r => .finite r
  | none => .infinite (decide (q < 0))

/-- The integer that a finite double is cut to. -/
def truncate (q : ℚ) : ℤ := if q < 0 then ⌈q⌉ else ⌊q⌋

theorem roundEven_intCast (n : ℤ) : roundEven n = n := by
  have hlow : ((n : ℚ) - ⌊(n : ℚ)⌋ < 1 / 2) := by
    rw [Int.floor_intCast, sub_self]
    exact one_half_pos
  simp only [roundEven]
  rw [if_pos hlow, Int.floor_intCast]

theorem truncate_eq_iff (q : ℚ) : (truncate q : ℚ) = q ↔ ∃ n : ℤ, q = n := by
  constructor
  · intro h
    exact ⟨truncate q, h.symm⟩
  · rintro ⟨n, rfl⟩
    rw [truncate, Int.ceil_intCast, Int.floor_intCast, ite_self]

/-- A number that is a whole number of its last places is kept. -/
theorem rounded_of_whole {q : ℚ} (h : ∃ m : ℤ, q / 2 ^ lastPlace q = m) : rounded q = q := by
  obtain ⟨m, hm⟩ := h
  have hplace : (2 : ℚ) ^ lastPlace q ≠ 0 := zpow_ne_zero _ two_ne_zero
  rw [rounded, hm, roundEven_intCast, ← hm, div_mul_cancel₀ q hplace]

theorem lastPlace_le_zero {q : ℚ} (h : |q| < 2 ^ 53) : lastPlace q ≤ 0 := by
  refine max_le ?_ (by decide)
  by_cases hq : |q| = 0
  · rw [hq, Int.log_zero_right]
    decide
  · have hlog : Int.log 2 |q| < 53 :=
      (Int.lt_zpow_iff_log_lt (b := 2) (by decide) (lt_of_le_of_ne (abs_nonneg q) (Ne.symm hq))).mp
        (by exact_mod_cast h)
    exact Int.sub_nonpos_of_le (Int.le_of_lt_add_one hlog)

/-- Integers of 53 bits are kept. -/
theorem nearest_intCast {n : ℤ} (h : |n| < 2 ^ 53) : nearest n = some (n : ℚ) := by
  have hsmall : |(n : ℚ)| < 2 ^ 53 := by exact_mod_cast h
  have hwhole : ∃ m : ℤ, (n : ℚ) / 2 ^ lastPlace n = m := by
    obtain ⟨k, hk⟩ := Int.eq_ofNat_of_zero_le (neg_nonneg.mpr (lastPlace_le_zero hsmall))
    refine ⟨n * 2 ^ k, ?_⟩
    rw [← neg_neg (lastPlace n), hk, zpow_neg, div_inv_eq_mul]
    push_cast
    rfl
  have hfits : |rounded n| < 2 ^ 1024 := by
    rw [rounded_of_whole hwhole]
    exact lt_trans hsmall (pow_lt_pow_right₀ one_lt_two (by decide))
  rw [nearest, if_pos hfits, rounded_of_whole hwhole]

theorem nearest_zero : nearest 0 = some 0 := by
  have h := nearest_intCast (n := 0) (by decide)
  rw [Int.cast_zero] at h
  exact h

end Binary64
