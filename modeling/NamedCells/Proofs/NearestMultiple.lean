import Mathlib.Algebra.Order.Ring.Abs
import Mathlib.Algebra.Order.Field.Rat
import Mathlib.Algebra.Ring.Int.Parity
import Mathlib.Tactic.FieldSimp
import Mathlib.Tactic.Linarith
import Mathlib.Tactic.Ring
import NamedCells.Rounding

/-!
# The nearest multiple

Rounding a quotient half to even gives the multiple of one that is nearest to the quotient, and of
two that are equally near the even one.  Nearest means nearer than any other multiple, which is the
same as at most half a step away.  From the latter it follows that rounding keeps the order: two
numbers can only be rounded the wrong way round if they are equal and lie halfway between two
multiples, and then both would have been rounded to the same one.

## Main definitions

* `NearestMultiple step q k` — `k` steps are nearest to `q`.

## Main results

* `nearestMultiple_iff` — nearest is at most half a step away.
* `NearestMultiple.mono` — **rounding keeps the order.**
* `nearestMultiple_roundHalfEven` — the rounded quotient is the nearest.
-/

namespace NamedCells

/-- The multiple of `step` by `k` is nearer to `q` than any other, or as near and even. -/
def NearestMultiple (step q : ℚ) (k : ℤ) : Prop :=
  ∀ j : ℤ, j ≠ k → |q - k * step| < |q - j * step| ∨ (|q - k * step| = |q - j * step| ∧ Even k)

variable {step q r : ℚ} {k l : ℤ}

/-- Two multiples are at least one step apart. -/
theorem step_le_add (positive : 0 < step) (other : l ≠ k) :
    step ≤ |q - k * step| + |q - l * step| := by
  have apart : (1 : ℚ) ≤ |(l : ℚ) - k| := by
    exact_mod_cast Int.one_le_abs (sub_ne_zero.mpr other)
  calc step
      = 1 * step := (one_mul step).symm
    _ ≤ |(l : ℚ) - k| * step := mul_le_mul_of_nonneg_right apart positive.le
    _ = |(l - k) * step| := by rw [abs_mul, abs_of_pos positive]
    _ = |(q - k * step) - (q - l * step)| := by
      congr 1
      ring
    _ ≤ |q - k * step| + |q - l * step| := abs_sub _ _

/-- **The nearest multiple is at most half a step away**, and if it is so far away it is even. -/
theorem nearestMultiple_iff (positive : 0 < step) :
    NearestMultiple step q k ↔
      |q - k * step| ≤ step / 2 ∧ (|q - k * step| = step / 2 → Even k) := by
  constructor
  · intro nearest
    have next := nearest (k + 1) (by omega)
    have previous := nearest (k - 1) (by omega)
    push_cast at next previous
    have upper : q - k * step ≤ step / 2 := by
      have closer : |q - k * step| ≤ |q - (k + 1) * step| := next.elim le_of_lt fun tie => tie.1.le
      rcases le_abs.mp ((le_abs_self _).trans closer) with side | side <;> linarith
    have lower : -(step / 2) ≤ q - k * step := by
      have closer : |q - k * step| ≤ |q - (k - 1) * step| :=
        previous.elim le_of_lt fun tie => tie.1.le
      rcases le_abs.mp ((neg_le_abs _).trans closer) with side | side <;> linarith
    refine ⟨abs_le.mpr ⟨lower, upper⟩, ?_⟩
    intro tie
    -- halfway between two multiples the other one is as near
    rcases eq_or_eq_neg_of_abs_eq tie with above | below
    · have same : |q - (k + 1) * step| = step / 2 := by
        rw [abs_eq (by linarith)]
        exact .inr (by linarith)
      rw [tie, same] at next
      exact (next.resolve_left (lt_irrefl _)).2
    · have same : |q - (k - 1) * step| = step / 2 := by
        rw [abs_eq (by linarith)]
        exact .inl (by linarith)
      rw [tie, same] at previous
      exact (previous.resolve_left (lt_irrefl _)).2
  · rintro ⟨near, tie⟩ j other
    have apart := step_le_add (q := q) positive other
    have far : step / 2 ≤ |q - j * step| := by linarith
    rcases (near.trans far).lt_or_eq with nearer | same
    · exact .inl nearer
    · exact .inr ⟨same, tie (le_antisymm near (same ▸ far))⟩

theorem NearestMultiple.abs_sub_le (positive : 0 < step) (nearest : NearestMultiple step q k) :
    |k * step - q| ≤ step / 2 := by
  rw [abs_sub_comm]
  exact ((nearestMultiple_iff positive).mp nearest).1

/-- The other sign is rounded the same way. -/
theorem NearestMultiple.neg (positive : 0 < step) (nearest : NearestMultiple step q k) :
    NearestMultiple step (-q) (-k) := by
  obtain ⟨near, tie⟩ := (nearestMultiple_iff positive).mp nearest
  have mirrored : |-q - ((-k : ℤ) : ℚ) * step| = |q - k * step| := by
    rw [← abs_neg]
    congr 1
    push_cast
    ring
  rw [nearestMultiple_iff positive, mirrored]
  exact ⟨near, fun half => (tie half).neg⟩

/-- **Rounding keeps the order.** -/
theorem NearestMultiple.mono (positive : 0 < step) (first : NearestMultiple step q k)
    (second : NearestMultiple step r l) (ordered : q ≤ r) : k ≤ l := by
  obtain ⟨near, tie⟩ := (nearestMultiple_iff positive).mp first
  obtain ⟨near', tie'⟩ := (nearestMultiple_iff positive).mp second
  by_contra reversed
  have less : l + 1 ≤ k := by omega
  have steps : (l : ℚ) * step + step ≤ k * step := by
    have scaled : ((l + 1 : ℤ) : ℚ) * step ≤ k * step :=
      mul_le_mul_of_nonneg_right (by exact_mod_cast less) positive.le
    push_cast at scaled
    linarith
  -- the bounds leave one place only, halfway between two multiples that follow each other
  have low := (abs_le.mp near).1
  have high := (abs_le.mp near').2
  have half : q - k * step = -(step / 2) := by linarith
  have half' : r - l * step = step / 2 := by linarith
  have nonneg : 0 ≤ step / 2 := by linarith
  have even : Even k := tie (by rw [half, abs_neg, abs_of_nonneg nonneg])
  have even' : Even l := tie' (by rw [half', abs_of_nonneg nonneg])
  have consecutive : k = l + 1 := by
    have same : (k : ℚ) * step = (l + 1) * step := by linarith
    exact_mod_cast mul_right_cancel₀ positive.ne' same
  rw [consecutive, Int.even_add_one] at even
  exact even even'

/-! ### Rounded quotients -/

/-- A quotient halfway between two naturals is rounded to the even one. -/
theorem even_roundHalfEven {n d : Nat} (positive : 0 < d)
    (tie : 2 * n = 2 * (d * roundHalfEven n d) + d ∨ 2 * n + d = 2 * (d * roundHalfEven n d)) :
    Even (roundHalfEven n d) := by
  have parts : d * (n / d) + n % d = n := Nat.div_add_mod n d
  simp only [roundHalfEven] at tie ⊢
  by_cases down : 2 * (n % d) < d
  · rw [if_pos down] at tie
    omega
  by_cases up : d < 2 * (n % d)
  · have small : n % d < d := Nat.mod_lt n positive
    rw [if_neg down, if_pos up, Nat.mul_add_one] at tie
    omega
  · rw [if_neg down, if_neg up, Nat.even_iff]
    omega

/-- **The rounded quotient is the nearest multiple**, here of the `m`-th part of one. -/
theorem nearestMultiple_roundHalfEven (n : Nat) {m d : Nat} (parts : 0 < m) (positive : 0 < d) :
    NearestMultiple (1 / m) (n / d) (roundHalfEven (n * m) d) := by
  have partsQ : (0 : ℚ) < m := by exact_mod_cast parts
  have positiveQ : (0 : ℚ) < d := by exact_mod_cast positive
  have down : (2 * (n * m) : ℚ) ≤ 2 * (d * roundHalfEven (n * m) d) + d := by
    exact_mod_cast two_mul_le_roundHalfEven_add (n * m) positive
  have up : (2 * (d * roundHalfEven (n * m) d) : ℚ) ≤ 2 * (n * m) + d := by
    exact_mod_cast two_mul_mul_roundHalfEven_le (n * m) d
  have tie := even_roundHalfEven (n := n * m) positive
  generalize roundHalfEven (n * m) d = h at down up tie ⊢
  -- without the denominators half a step is half of `d`
  have scale : (0 : ℚ) < 1 / (d * m) := one_div_pos.mpr (mul_pos positiveQ partsQ)
  have distance : |(n / d : ℚ) - (h : ℤ) * (1 / m)| = |(n * m : ℚ) - d * h| * (1 / (d * m)) := by
    have quotient : (n / d - (h : ℤ) * (1 / m) : ℚ) = (n * m - d * h) * (1 / (d * m)) := by
      push_cast
      field_simp
    rw [quotient, abs_mul, abs_of_pos scale]
  have half : (1 / m / 2 : ℚ) = d / 2 * (1 / (d * m)) := by field_simp
  rw [nearestMultiple_iff (one_div_pos.mpr partsQ), distance, half]
  constructor
  · refine mul_le_mul_of_nonneg_right ?_ scale.le
    exact abs_le.mpr ⟨by linarith, by linarith⟩
  · intro same
    have gap : |(n * m : ℚ) - d * h| = d / 2 := mul_right_cancel₀ scale.ne' same
    refine (Int.even_coe_nat h).mpr (tie ?_)
    rcases eq_or_eq_neg_of_abs_eq gap with above | below
    · left
      have doubled : (2 * (n * m) : ℚ) = 2 * (d * h) + d := by linarith
      exact_mod_cast doubled
    · right
      have doubled : (2 * (n * m) + d : ℚ) = 2 * (d * h) := by linarith
      exact_mod_cast doubled

end NamedCells
