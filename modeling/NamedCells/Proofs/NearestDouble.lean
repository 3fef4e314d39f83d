import Mathlib.Algebra.Group.Nat.Defs
import NamedCells.Proofs.NumberText

/-!
# The double nearest to a quotient

Rounding a quotient to a double drops bits until fifty-three are left.  So below 2ᵉ⁺⁵³ units the
double is at most half of 2ᵉ units away from the quotient.  Conversely a quotient that is less than
half a step away from a double is rounded to it, unless the double is a power of two, below which
the steps are smaller.

## Main results

* `roundHalfEven_eq_of_near` — a natural less than half a unit away is the one rounded to.
* `Binary64.units_ofMagnitudeBits` — the units of a double that is put together from a count and
  the number of bits dropped.
* `Binary64.units_add_le` — a double below a power of two stays a step below.
* `Binary64.exists_nearest_eq` — the nearest double, put together from what is left of a quotient.
* `Binary64.nearest_error` — **how far the nearest double may be from a quotient.**
* `Binary64.nearest_eq_of_near` — **a quotient near a double is rounded to it.**
-/

namespace NamedCells

/-! ### Naturals -/

/-- A natural that is less than half a unit away from a quotient is what it is rounded to. -/
theorem roundHalfEven_eq_of_near {n d m : Nat} (below : 2 * (m * d) < 2 * n + d)
    (above : 2 * n < 2 * (m * d) + d) : roundHalfEven n d = m := by
  have positive : 0 < d := by omega
  have down := two_mul_le_roundHalfEven_add n positive
  have up := two_mul_mul_roundHalfEven_le n d
  rw [Nat.mul_comm d] at down up
  have le : m * d < (roundHalfEven n d + 1) * d := by
    rw [Nat.add_mul]
    omega
  have ge : roundHalfEven n d * d < (m + 1) * d := by
    rw [Nat.add_mul]
    omega
  have lt_succ := Nat.lt_of_mul_lt_mul_right le
  have succ_lt := Nat.lt_of_mul_lt_mul_right ge
  omega

namespace Binary64

/-! ### Doubles put together -/

variable {negative : Bool} {b drop q : Nat}

theorem toNat_bits_ofMagnitudeBits (small : b < 2 ^ 63) :
    (ofMagnitudeBits negative b).bits.toNat = if negative then 2 ^ 63 + b else b := by
  unfold ofMagnitudeBits
  rw [UInt64.toNat_ofNat']
  cases negative <;> simp only [Nat.pow_eq, reduceIte, Bool.false_eq_true] <;> omega

theorem isNegative_ofMagnitudeBits (small : b < 2 ^ 63) :
    (ofMagnitudeBits negative b).isNegative = negative := by
  rw [isNegative, toNat_bits_ofMagnitudeBits small]
  cases negative with
  | false => exact decide_eq_false (Nat.not_le_of_lt small)
  | true => exact decide_eq_true (Nat.le_add_right _ b)

theorem magnitudeBits_ofMagnitudeBits (small : b < 2 ^ 63) :
    (ofMagnitudeBits negative b).magnitudeBits = b := by
  rw [magnitudeBits, toNat_bits_ofMagnitudeBits small]
  cases negative <;> simp only [Nat.pow_eq, reduceIte, Bool.false_eq_true] <;> omega

/-- A count of at most fifty-three bits, with as many bits dropped as a finite double can drop,
stays below the infinity. -/
theorem magnitudeBits_lt (carried : q ≤ 2 ^ 53) (room : drop ≤ 2044) :
    drop * 2 ^ 52 + q < 2047 * Nat.pow 2 52 := by
  simp only [Nat.pow_eq]
  omega

/-- **The units of a double that is put together** from a count of at most fifty-three bits, or one
more after a carry, and the number of bits dropped from it. -/
theorem units_ofMagnitudeBits (carried : q ≤ 2 ^ 53) (full : drop = 0 ∨ 2 ^ 52 ≤ q)
    (room : drop ≤ 2044) :
    (ofMagnitudeBits negative (drop * 2 ^ 52 + q)).units = q * 2 ^ drop := by
  have bits : (ofMagnitudeBits negative (drop * 2 ^ 52 + q)).magnitudeBits = drop * 2 ^ 52 + q :=
    magnitudeBits_ofMagnitudeBits (by omega)
  simp only [units, exponent, fraction, bits, Nat.pow_eq]
  rcases Nat.lt_or_ge q (2 ^ 52) with short | long
  · -- a subnormal number
    have none : drop = 0 := by omega
    subst none
    have exponent : (0 * 2 ^ 52 + q) / 2 ^ 52 = 0 := by omega
    rw [if_pos exponent]
    omega
  · rcases Nat.lt_or_eq_of_le carried with normal | carry
    · have exponent : (drop * 2 ^ 52 + q) / 2 ^ 52 = drop + 1 := by omega
      have fraction : 2 ^ 52 + (drop * 2 ^ 52 + q) % 2 ^ 52 = q := by omega
      rw [exponent, fraction, if_neg (Nat.succ_ne_zero drop), Nat.add_sub_cancel]
    · -- the carry has moved the exponent up
      have exponent : (drop * 2 ^ 52 + q) / 2 ^ 52 = drop + 1 + 1 := by omega
      have fraction : 2 ^ 52 + (drop * 2 ^ 52 + q) % 2 ^ 52 = 2 ^ 52 := by omega
      rw [exponent, fraction, if_neg (Nat.succ_ne_zero _), Nat.add_sub_cancel, carry, Nat.pow_succ]
      omega

/-- A natural of fifty-three bits and `e` more drops `e`. -/
theorem log2_sub_eq {a e : Nat} (least : 2 ^ 52 * 2 ^ e ≤ a) (most : a < 2 ^ 53 * 2 ^ e) :
    Nat.log2 a - 52 = e := by
  have step : 0 < 2 ^ e := Nat.two_pow_pos e
  have nonzero : a ≠ 0 := by omega
  have log : Nat.log2 a = 52 + e := by
    rw [Nat.log2_eq_iff nonzero, Nat.pow_add, Nat.add_right_comm, Nat.pow_add]
    exact ⟨least, most⟩
  omega

/-- The bits of a double with fifty-three bits of units. -/
theorem magnitudeBits_of_units {x : Binary64} {m e : Nat} (units : x.units = m * 2 ^ e)
    (above : 2 ^ 52 ≤ m) (below : m < 2 ^ 53) : e * 2 ^ 52 + m = x.magnitudeBits := by
  have step : 0 < 2 ^ e := Nat.two_pow_pos e
  have dropped : Nat.log2 x.units - 52 = e := by
    rw [units]
    exact log2_sub_eq (Nat.mul_le_mul_right _ above) (Nat.mul_lt_mul_of_pos_right below step)
  obtain ⟨k, equal, bits⟩ := x.units_eq
  rw [dropped] at equal bits
  have same : m = k := Nat.eq_of_mul_eq_mul_right step (units.symm.trans equal)
  rw [same]
  exact bits

/-- **A double below 2ᵉ⁺⁵³ units stays 2ᵉ units below.** -/
theorem units_add_le {x : Binary64} {e : Nat} (below : x.units < 2 ^ (e + 53)) :
    x.units + 2 ^ e ≤ 2 ^ (e + 53) := by
  have step : 0 < 2 ^ e := Nat.two_pow_pos e
  rcases Nat.lt_or_ge x.units (2 ^ (e + 52)) with low | high
  · have double : 2 ^ (e + 53) = 2 ^ (e + 52) + 2 ^ (e + 52) := by
      rw [← Nat.two_mul, ← Nat.pow_succ']
    have fits : 2 ^ e ≤ 2 ^ (e + 52) := Nat.pow_le_pow_right (by decide) (Nat.le_add_right e 52)
    omega
  · -- exactly `e` bits are dropped, and the fifty-three left are not all that a power of two needs
    have nonzero : x.units ≠ 0 := Nat.ne_of_gt (Nat.lt_of_lt_of_le (Nat.two_pow_pos _) high)
    have log : Nat.log2 x.units = e + 52 := (Nat.log2_eq_iff nonzero).mpr ⟨high, below⟩
    obtain ⟨m, units, -⟩ := x.units_eq
    rw [log, Nat.add_sub_cancel, Nat.pow_eq] at units
    rw [units, Nat.add_comm e 53, Nat.pow_add] at below ⊢
    have few : m + 1 ≤ 2 ^ 53 := Nat.lt_of_mul_lt_mul_right below
    calc m * 2 ^ e + 2 ^ e
        = (m + 1) * 2 ^ e := (Nat.succ_mul m (2 ^ e)).symm
      _ ≤ 2 ^ 53 * 2 ^ e := Nat.mul_le_mul_right _ few

/-! ### Quotients -/

variable {v d : Nat}

/-- The bits that are dropped from a quotient leave fifty-three. -/
theorem log2_div_bounds (positive : 0 < d) {drop : Nat} (dropped : Nat.log2 (v / d) - 52 = drop) :
    v < 2 ^ 53 * (d * 2 ^ drop) ∧ (drop = 0 ∨ 2 ^ 52 * (d * 2 ^ drop) ≤ v) := by
  have regroup (a : Nat) : 2 ^ a * (d * 2 ^ drop) = 2 ^ (drop + a) * d := by
    rw [Nat.pow_add]
    ac_rfl
  rw [regroup, regroup]
  constructor
  · have below : v / d < 2 ^ (drop + 53) :=
      calc v / d
          < 2 ^ (Nat.log2 (v / d) + 1) := Nat.lt_log2_self
        _ ≤ 2 ^ (drop + 53) := Nat.pow_le_pow_right (by decide) (by omega)
    exact (Nat.div_lt_iff_lt_mul positive).mp below
  · rcases Nat.eq_zero_or_pos drop with none | some
    · exact .inl none
    · have nonzero : v / d ≠ 0 := by
        intro zero
        rw [zero, Nat.log2_zero] at dropped
        omega
      have log : Nat.log2 (v / d) = drop + 52 := by omega
      exact .inr ((Nat.le_div_iff_mul_le positive).mp (log ▸ Nat.log2_self_le nonzero))

/-- What is left of a quotient has fifty-three bits, or one more after a carry. -/
theorem roundHalfEven_bounds (positive : 0 < d) {drop : Nat}
    (dropped : Nat.log2 (v / d) - 52 = drop) :
    roundHalfEven v (d * 2 ^ drop) ≤ 2 ^ 53 ∧
      (drop = 0 ∨ 2 ^ 52 ≤ roundHalfEven v (d * 2 ^ drop)) := by
  obtain ⟨below, above⟩ := log2_div_bounds positive dropped
  have step : 0 < d * 2 ^ drop := Nat.mul_pos positive (Nat.pow_pos (by decide))
  have down := two_mul_le_roundHalfEven_add v step
  have up := two_mul_mul_roundHalfEven_le v (d * 2 ^ drop)
  generalize roundHalfEven v (d * 2 ^ drop) = q at down up ⊢
  generalize d * 2 ^ drop = w at below above step down up
  refine ⟨?_, above.imp_right fun large => ?_⟩
  · have less : w * q < w * (2 ^ 53 + 1) := by
      rw [Nat.mul_add]
      omega
    exact Nat.le_of_lt_succ (Nat.lt_of_mul_lt_mul_left less)
  · have more : w * 2 ^ 52 < w * (q + 1) := by
      rw [Nat.mul_add]
      omega
    exact Nat.le_of_lt_succ (Nat.lt_of_mul_lt_mul_left more)

/-- A quotient below 2ᵉ⁺⁵³ drops at most `e` bits. -/
theorem log2_div_sub_le {e : Nat} (positive : 0 < d) (below : v < 2 ^ (e + 53) * d) :
    Nat.log2 (v / d) - 52 ≤ e := by
  have small : v / d < 2 ^ (e + 53) := (Nat.div_lt_iff_lt_mul positive).mpr below
  by_cases zero : v / d = 0
  · rw [zero, Nat.log2_zero]
    exact Nat.zero_le e
  · have log : Nat.log2 (v / d) < e + 53 := (Nat.log2_lt zero).mpr small
    omega

/-- A quotient that is not too large is rounded to a double that is put together from what is left
of it. -/
theorem exists_nearest_eq (negative : Bool) {n e : Nat} (positive : 0 < d) (room : e ≤ 2044)
    (below : n * unitsPerOne < 2 ^ (e + 53) * d) :
    ∃ drop q, drop ≤ e ∧ q ≤ 2 ^ 53 ∧ (drop = 0 ∨ 2 ^ 52 ≤ q) ∧
      roundHalfEven (n * unitsPerOne) (d * 2 ^ drop) = q ∧
      nearest negative n d = ofMagnitudeBits negative (drop * 2 ^ 52 + q) := by
  obtain ⟨drop, dropped⟩ : ∃ drop, Nat.log2 (n * unitsPerOne / d) - 52 = drop := ⟨_, rfl⟩
  have few : drop ≤ e := dropped ▸ log2_div_sub_le positive below
  obtain ⟨carried, full⟩ := roundHalfEven_bounds positive dropped
  refine ⟨drop, _, few, carried, full, rfl, ?_⟩
  have finite := magnitudeBits_lt carried (Nat.le_trans few room)
  unfold nearest magnitudeBitsOfUnits
  simp only [dropped, Nat.pow_eq] at finite ⊢
  rw [Nat.min_eq_left (Nat.le_of_lt finite)]

/-- **How far the nearest double may be from a quotient.** -/
theorem nearest_error (negative : Bool) {n e : Nat} (positive : 0 < d) (room : e ≤ 2044)
    (below : n * unitsPerOne < 2 ^ (e + 53) * d) :
    let y := nearest negative n d
    y.isFinite = true ∧ y.isNegative = negative ∧
      2 * (n * unitsPerOne) ≤ 2 * (y.units * d) + 2 ^ e * d ∧
      2 * (y.units * d) ≤ 2 * (n * unitsPerOne) + 2 ^ e * d := by
  intro y
  obtain ⟨drop, q, few, carried, full, rounded, same⟩ :=
    exists_nearest_eq negative positive room below
  have same : y = ofMagnitudeBits negative (drop * 2 ^ 52 + q) := same
  have finite := magnitudeBits_lt carried (Nat.le_trans few room)
  have small : drop * 2 ^ 52 + q < 2 ^ 63 := Nat.lt_trans finite (by decide)
  have units : y.units * d = d * 2 ^ drop * q := by
    rw [same, units_ofMagnitudeBits carried full (Nat.le_trans few room)]
    ac_rfl
  -- the error is half of what is dropped
  have step : 0 < d * 2 ^ drop := Nat.mul_pos positive (Nat.two_pow_pos drop)
  have down := two_mul_le_roundHalfEven_add (n * unitsPerOne) step
  have up := two_mul_mul_roundHalfEven_le (n * unitsPerOne) (d * 2 ^ drop)
  rw [rounded, ← units] at down up
  have steps : d * 2 ^ drop ≤ 2 ^ e * d := by
    rw [Nat.mul_comm]
    exact Nat.mul_le_mul_right d (Nat.pow_le_pow_right (by decide) few)
  refine ⟨?_, ?_, Nat.le_trans down (Nat.add_le_add_left steps _),
    Nat.le_trans up (Nat.add_le_add_left steps _)⟩
  · rw [isFinite_iff_magnitudeBits_lt, same, magnitudeBits_ofMagnitudeBits small]
    exact finite
  · rw [same, isNegative_ofMagnitudeBits small]

/-- **A quotient near a double is rounded to it**, if it is less than half a step away and the
double is no power of two. -/
theorem nearest_eq_of_near {x : Binary64} (finite : x.isFinite = true) {m e n : Nat}
    (units : x.units = m * 2 ^ e) (above : 2 ^ 52 < m) (below : m < 2 ^ 53)
    (low : 2 * (x.units * d) < 2 * (n * unitsPerOne) + 2 ^ e * d)
    (high : 2 * (n * unitsPerOne) < 2 * (x.units * d) + 2 ^ e * d) :
    nearest x.isNegative n d = x := by
  have positive : 0 < d := by
    rcases Nat.eq_zero_or_pos d with rfl | positive
    · omega
    · exact positive
  have whole : x.units * d = m * (d * 2 ^ e) := by
    rw [units]
    ac_rfl
  rw [whole, Nat.mul_comm (2 ^ e)] at low high
  -- the quotient drops as many bits as the double
  have dropped : Nat.log2 (n * unitsPerOne / d) - 52 = e := by
    have least : (2 ^ 52 + 1) * (d * 2 ^ e) ≤ m * (d * 2 ^ e) := Nat.mul_le_mul_right _ above
    have most : (m + 1) * (d * 2 ^ e) ≤ 2 ^ 53 * (d * 2 ^ e) := Nat.mul_le_mul_right _ below
    rw [Nat.add_mul] at least most
    have regroup (a : Nat) : a * 2 ^ e * d = a * (d * 2 ^ e) := by ac_rfl
    apply log2_sub_eq
    · rw [Nat.le_div_iff_mul_le positive, regroup]
      omega
    · rw [Nat.div_lt_iff_lt_mul positive, regroup]
      omega
  have rounded : roundHalfEven (n * unitsPerOne) (d * 2 ^ e) = m :=
    roundHalfEven_eq_of_near low high
  have bits : e * 2 ^ 52 + m = x.magnitudeBits :=
    magnitudeBits_of_units units (Nat.le_of_lt above) below
  have same : magnitudeBitsOfUnits (n * unitsPerOne) d = x.magnitudeBits := by
    have small := isFinite_iff_magnitudeBits_lt.mp finite
    unfold magnitudeBitsOfUnits
    simp only [dropped, Nat.pow_eq] at small ⊢
    rw [rounded, bits]
    exact Nat.min_eq_left (Nat.le_of_lt small)
  rw [nearest, same, ofMagnitudeBits_self]

end Binary64

end NamedCells
