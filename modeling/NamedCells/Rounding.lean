/-!
# Rounding a quotient

A quotient of two naturals rounded to the nearest natural.  Both the conversion of a decimal to
a double and the printing of a double with a fixed number of places are one such rounding, of
two different quotients.

## Main definitions

* `roundHalfEven n d` — `n / d` to the nearest natural, a half to the even neighbour.

## Main results

* `two_mul_le_roundHalfEven_add`, `two_mul_mul_roundHalfEven_le` — the result is within half a unit.
-/

namespace NamedCells

/-- The natural nearest to `n / d`; of two equally near ones, the even one.  The remainder
decides: twice the remainder below `d` goes down, above `d` goes up. -/
def roundHalfEven (n d : Nat) : Nat :=
  let q := n / d
  let r := n % d
  if 2 * r < d then q
  else if d < 2 * r then q + 1
  else q + q % 2

/-- A quotient without remainder is left as it is. -/
theorem roundHalfEven_mul_right (n : Nat) {d : Nat} (h : 0 < d) : roundHalfEven (n * d) d = n := by
  simp [roundHalfEven, Nat.mul_div_cancel n h, h]

/-- Rounding does not go down by more than half a unit. -/
theorem two_mul_le_roundHalfEven_add (n : Nat) {d : Nat} (h : 0 < d) :
    2 * n ≤ 2 * (d * roundHalfEven n d) + d := by
  have parts : d * (n / d) + n % d = n := Nat.div_add_mod n d
  have small : n % d < d := Nat.mod_lt n h
  simp only [roundHalfEven]
  split
  · omega
  · split
    · rw [Nat.mul_add]
      omega
    · have up : d * (n / d) ≤ d * (n / d + n / d % 2) := Nat.mul_le_mul_left d (by omega)
      omega

/-- Rounding does not go up by more than half a unit. -/
theorem two_mul_mul_roundHalfEven_le (n d : Nat) :
    2 * (d * roundHalfEven n d) ≤ 2 * n + d := by
  have parts : d * (n / d) + n % d = n := Nat.div_add_mod n d
  simp only [roundHalfEven]
  split
  · omega
  · split
    · rw [Nat.mul_add]
      omega
    · have up : d * (n / d + n / d % 2) ≤ d * (n / d + 1) := Nat.mul_le_mul_left d (by omega)
      rw [Nat.mul_add_one] at up
      omega

end NamedCells
