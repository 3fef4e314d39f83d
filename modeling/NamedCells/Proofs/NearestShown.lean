import NamedCells.Proofs.NearestMultiple
import NamedCells.Proofs.ShownNumbers

/-!
# The shown number is the nearest

The bits of a finite double denote a rational number, and so do the digits that the double is shown
as.  The number that is shown is the multiple of a hundredth nearest to the other one, whether two
places are written or, for an integer, none.  Hence the shown numbers are in the order of the
doubles, and no more than half a hundredth away from them.

## Main definitions

* `WrittenDecimal` — digits with a sign and perhaps a point.
* `Binary64.value` — the number that a finite double is.
* `Binary64.figure` — the digits that a finite double is shown as.

## Main results

* `Binary64.toList_shown_eq_figure` — the text that is shown are these digits.
* `Binary64.exists_nearestMultiple` — they denote the nearest multiple of a hundredth.
* `shown_nearest` — **the shown number is the nearest.**
-/

namespace NamedCells

/-! ### Written decimals -/

/-- A number as it is written: digits, behind a sign if it is negative, and with a point among them
if some of them are places behind it.  Before the point no zero stands in front of other digits. -/
structure WrittenDecimal where
  negative : Bool
  /-- The digits before the point. -/
  whole : List Char
  /-- The digits behind the point. -/
  places : List Char
  nonempty : whole ≠ []
  noZero : whole.head? = some '0' → whole = ['0']
  digits : ∀ c ∈ whole ++ places, c.isDigit = true

/-- A numeral begins with a zero only if that is all of it. -/
theorem numeral_eq_of_head? {n : Nat} (zero : (numeral n).head? = some '0') :
    numeral n = ['0'] := by
  induction n using Nat.strongRecOn with
  | ind n ih =>
    by_cases single : n < 10
    · have one : numeral n = [n.digitChar] := Nat.toDigits_of_lt_base single
      rw [one] at zero ⊢
      exact congrArg (· :: []) (Option.some.inj zero)
    · have longer : numeral n = numeral (n / 10) ++ [(n % 10).digitChar] :=
        Nat.toDigits_of_base_le (by decide) (Nat.le_of_not_lt single)
      -- a zero in front would be all of the other digits, which denote a tenth of the number
      rw [longer, List.head?_append_of_ne_nil _ (numeral_ne_nil _)] at zero
      have tenth : n / 10 = 0 := by
        rw [← ofDigitChars_numeral (n / 10), ih (n / 10) (by omega) zero]
        rfl
      omega

namespace WrittenDecimal

/-- A natural number with a sign. -/
def integer (negative : Bool) (n : Nat) : WrittenDecimal where
  negative := negative
  whole := numeral n
  places := []
  nonempty := numeral_ne_nil n
  noZero := numeral_eq_of_head?
  digits := by
    intro c mem
    rw [List.append_nil] at mem
    exact isDigit_of_mem_numeral mem

/-- `n / 10ᵖ` with a sign and `p` places. -/
def pointed (negative : Bool) (n p : Nat) : WrittenDecimal where
  negative := negative
  whole := numeral (n / Nat.pow 10 p)
  places := (numeral (n % Nat.pow 10 p)).leftpad p '0'
  nonempty := numeral_ne_nil _
  noZero := numeral_eq_of_head?
  digits := by
    intro c mem
    rcases List.mem_append.mp mem with front | behind
    · exact isDigit_of_mem_numeral front
    · exact Binary64.isDigit_of_mem_leftpad_numeral behind

theorem length_places_pointed (negative : Bool) (n : Nat) {p : Nat} (positive : 0 < p) :
    (pointed negative n p).places.length = p :=
  Binary64.length_leftpad_numeral positive (Nat.mod_lt n (Nat.pow_pos (by decide)))

/-- The characters of a written decimal. -/
def text (d : WrittenDecimal) : List Char :=
  (if d.negative then ['-'] else []) ++ d.whole ++ if d.places = [] then [] else '.' :: d.places

/-- The number that a written decimal denotes. -/
def value (d : WrittenDecimal) : ℚ :=
  (if d.negative then -1 else 1) *
    (Nat.ofDigitChars 10 (d.whole ++ d.places) 0 / 10 ^ d.places.length)

/-- A minus sign stands in front of the negative ones only. -/
theorem head?_text_eq_minus_iff (d : WrittenDecimal) :
    d.text.head? = some '-' ↔ d.negative = true := by
  obtain ⟨c, cs, front⟩ := List.exists_cons_of_ne_nil d.nonempty
  have digit : c.isDigit = true := d.digits c (by simp [front])
  have other : c ≠ '-' := Text.ne_of_apply digit (by decide)
  unfold text
  cases d.negative <;> simp [front, other]

/-- The reader finds the number. -/
theorem rational?_text (d : WrittenDecimal) : Binary64.rational? d.text = some d.value := by
  obtain ⟨whole, places⟩ := List.forall_mem_append.mp d.digits
  let unsigned := d.whole ++ if d.places = [] then [] else '.' :: d.places
  have sign : Binary64.takeSign d.text = (d.negative, unsigned) := by
    obtain ⟨c, cs, front⟩ := List.exists_cons_of_ne_nil d.nonempty
    have digit : c.isDigit = true := whole c (by simp [front])
    have minus : c ≠ '-' := Text.ne_of_apply digit (by decide)
    have plus : c ≠ '+' := Text.ne_of_apply digit (by decide)
    simp only [text, unsigned, front]
    cases d.negative with
    | true => rfl
    | false => exact Binary64.takeSign_of_head minus plus _
  have decimal : Binary64.decimal? unsigned =
      some (Nat.ofDigitChars 10 (d.whole ++ d.places) 0, -(d.places.length : ℤ)) := by
    by_cases none : d.places = []
    · simp only [unsigned, none, if_true, List.append_nil]
      exact Binary64.decimal?_digits whole d.nonempty
    · simp only [unsigned, none, if_false]
      exact Binary64.decimal?_pointed_digits whole places (by simp [none])
  rw [Binary64.rational?, sign, decimal, Option.map_some, Binary64.signedDecimal, value, zpow_neg,
    zpow_natCast, div_eq_mul_inv]

end WrittenDecimal

namespace Binary64

variable {x y : Binary64}

/-! ### The number that a double is -/

/-- The number that the bits of a finite double denote. -/
def value (x : Binary64) : ℚ :=
  (if x.isNegative then -1 else 1) *
    if x.exponent = 0 then (x.fraction : ℚ) / 2 ^ 52 * 2 ^ (-1022 : ℤ)
    else (1 + (x.fraction : ℚ) / 2 ^ 52) * 2 ^ ((x.exponent : ℤ) - 1023)

/-- The units of a finite double make up its magnitude. -/
theorem value_eq (x : Binary64) :
    x.value = (if x.isNegative then -1 else 1) * ((x.units : ℚ) / unitsPerOne) := by
  obtain ⟨p, places, power⟩ := exists_unitsPerOne_eq
  have two : (2 : ℚ) ≠ 0 := two_ne_zero
  have least : (2 : ℚ) ^ (-1022 : ℤ) = 2 ^ 52 / 2 ^ p := by
    rw [← zpow_natCast 2 p, ← zpow_natCast 2 52, ← zpow_sub₀ two, places]
    rfl
  have units : (if x.exponent = 0 then (x.fraction : ℚ) / 2 ^ 52 * 2 ^ (-1022 : ℤ)
      else (1 + (x.fraction : ℚ) / 2 ^ 52) * 2 ^ ((x.exponent : ℤ) - 1023)) =
        (x.units : ℚ) / unitsPerOne := by
    rw [power, Binary64.units]
    split
    · rw [least]
      push_cast
      field_simp
    · next normal =>
      obtain ⟨e, exponent⟩ := Nat.exists_eq_add_one_of_ne_zero normal
      have shift : (2 : ℚ) ^ ((x.exponent : ℤ) - 1023) = 2 ^ e * (2 ^ 52 / 2 ^ p) := by
        have steps : (x.exponent : ℤ) - 1023 = e + -1022 := by omega
        rw [steps, zpow_add₀ two, zpow_natCast, least]
      rw [shift, exponent, Nat.add_sub_cancel, Nat.pow_eq, Nat.pow_eq]
      push_cast
      field_simp
      norm_num
  rw [value, units]

theorem unitsPerOne_cast_pos : (0 : ℚ) < unitsPerOne := by
  exact_mod_cast unitsPerOne_pos

theorem abs_value (x : Binary64) : |x.value| = (x.units : ℚ) / unitsPerOne := by
  have sign : |(if x.isNegative then -1 else 1 : ℚ)| = 1 := by
    cases x.isNegative <;> simp
  rw [value_eq, abs_mul, sign, one_mul]
  exact abs_of_nonneg (div_nonneg (Nat.cast_nonneg _) unitsPerOne_cast_pos.le)

/-- An integer is one by its value. -/
theorem isInteger_iff (finite : x.isFinite = true) :
    x.isInteger = true ↔ ∃ n : ℤ, x.value = n := by
  have divides : x.isInteger = true ↔ unitsPerOne ∣ x.units := by
    rw [isInteger, finite, Bool.true_and, beq_iff_eq, Nat.dvd_iff_mod_eq_zero]
  rw [divides]
  constructor
  · rintro ⟨m, units⟩
    have quotient : (x.units : ℚ) / unitsPerOne = m := by
      rw [units, Nat.cast_mul, mul_div_cancel_left₀ _ unitsPerOne_cast_pos.ne']
    refine ⟨if x.isNegative then -m else m, ?_⟩
    rw [value_eq, quotient]
    cases x.isNegative <;> simp
  · rintro ⟨n, whole⟩
    have magnitude : (x.units : ℚ) / unitsPerOne = n.natAbs := by
      rw [← abs_value, whole, ← Int.cast_abs, Int.abs_eq_natAbs, Int.cast_natCast]
    rw [div_eq_iff unitsPerOne_cast_pos.ne'] at magnitude
    exact ⟨n.natAbs, by rw [Nat.mul_comm]; exact_mod_cast magnitude⟩

/-- The integers that are shown without places, by their values. -/
theorem shownAsInteger_iff (finite : x.isFinite = true) :
    (x.isInteger = true ∧ x.units < shownIntegerBound * unitsPerOne) ↔
      (∃ n : ℤ, x.value = n) ∧ |x.value| < 10 ^ 10 := by
  have small : x.units < shownIntegerBound * unitsPerOne ↔ |x.value| < 10 ^ 10 := by
    have bound : (shownIntegerBound : ℚ) = 10 ^ 10 := by
      norm_num [shownIntegerBound]
    rw [abs_value, div_lt_iff₀ unitsPerOne_cast_pos, ← bound]
    exact_mod_cast Iff.rfl
  rw [isInteger_iff finite, small]

/-! ### The digits that are shown -/

/-- The digits that a finite double is shown as. -/
def figure (x : Binary64) : WrittenDecimal :=
  if x.isInteger ∧ x.units < shownIntegerBound * unitsPerOne then
    .integer x.isNegative (x.units / unitsPerOne)
  else .pointed x.isNegative x.hundredths shownPlaces

theorem negative_figure (x : Binary64) : x.figure.negative = x.isNegative := by
  unfold figure
  split <;> rfl

/-- **A finite double is shown as its digits.** -/
theorem toList_shown_eq_figure (finite : x.isFinite = true) : x.shown.toList = x.figure.text := by
  have integer (n : Nat) : positional n 0 = numeral n := List.append_nil _
  rw [toList_shown finite, shownDecimal, figure]
  by_cases whole : x.isInteger = true ∧ x.units < shownIntegerBound * unitsPerOne
  · simp only [if_pos whole, integer]
    cases x.isNegative <;> simp [WrittenDecimal.text, WrittenDecimal.integer]
  · have two := WrittenDecimal.length_places_pointed x.isNegative x.hundredths
      (show 0 < shownPlaces by decide)
    have filled : (WrittenDecimal.pointed x.isNegative x.hundredths shownPlaces).places ≠ [] :=
      List.ne_nil_of_length_eq_add_one two
    simp only [if_neg whole, positional_neg_two, WrittenDecimal.text, if_neg filled]
    cases x.isNegative <;> simp [pointed, WrittenDecimal.pointed]

/-- The digits denote hundredths, also where no places are written. -/
theorem value_figure (finite : x.isFinite = true) :
    x.figure.value = (if x.isNegative then -1 else 1) * ((x.hundredths : ℚ) * (1 / 100)) := by
  have read : some x.figure.value = some (signedDecimal x.isNegative x.shownDecimal) := by
    rw [← WrittenDecimal.rational?_text, ← toList_shown_eq_figure finite, rational?_shown finite]
  have magnitude : (x.shownDecimal.1 : ℚ) * 10 ^ x.shownDecimal.2 = x.hundredths * (1 / 100) := by
    unfold shownDecimal
    by_cases whole : x.isInteger = true ∧ x.units < shownIntegerBound * unitsPerOne
    · rw [if_pos whole, hundredths_of_isInteger whole.1, zpow_zero]
      generalize x.units / unitsPerOne = n
      push_cast
      field_simp
    · rw [if_neg whole]
      generalize x.hundredths = h
      norm_num
  rw [Option.some.inj read, signedDecimal, magnitude]

/-- **The number that is shown is the nearest multiple of a hundredth.** -/
theorem exists_nearestMultiple (finite : x.isFinite = true) :
    ∃ k : ℤ, x.figure.value = k * (1 / 100) ∧ NearestMultiple (1 / 100) x.value k := by
  have nearest : NearestMultiple (1 / 100) (x.units / unitsPerOne) x.hundredths := by
    have rounded := nearestMultiple_roundHalfEven x.units (m := 100) (by decide) unitsPerOne_pos
    rwa [← hundredths_eq] at rounded
  have mirrored := nearest.neg (by norm_num)
  rw [value_figure finite, value_eq]
  generalize (x.units : ℚ) / unitsPerOne = q, x.hundredths = h at nearest mirrored ⊢
  cases x.isNegative with
  | false => exact ⟨h, by simp, by simpa using nearest⟩
  | true => exact ⟨-h, by simp, by simpa using mirrored⟩

/-- An integer that is shown without places is shown as it is. -/
theorem value_figure_of_integer (finite : x.isFinite = true) (whole : x.isInteger = true) :
    x.figure.value = x.value := by
  have quotient : (x.units : ℚ) / unitsPerOne = (x.units / unitsPerOne : ℕ) := by
    rw [div_eq_iff unitsPerOne_cast_pos.ne']
    exact_mod_cast units_of_isInteger whole
  rw [value_figure finite, value_eq, hundredths_of_isInteger whole, quotient]
  push_cast
  ring

end Binary64

/-- **The shown number is the nearest.**  An integer below 10¹⁰ in magnitude is shown as it is and
without places, every other number with two of them as the nearest multiple of a hundredth, the even
one on a tie, and a minus sign is shown iff the sign bit is set.  So a shown number is at most half
a hundredth away, and the shown numbers are in the order of the numbers. -/
theorem shown_nearest {x : Binary64} (finite : x.isFinite = true) :
    x.shown.toList = x.figure.text ∧ (x.shown.toList.head? = some '-' ↔ x.isNegative = true) ∧
      ((∃ n : ℤ, x.value = n) ∧ |x.value| < 10 ^ 10 →
        x.figure.places = [] ∧ x.figure.value = x.value) ∧
      (¬ ((∃ n : ℤ, x.value = n) ∧ |x.value| < 10 ^ 10) →
        x.figure.places.length = 2 ∧
          ∃ k : ℤ, x.figure.value = k * (1 / 100) ∧ NearestMultiple (1 / 100) x.value k) ∧
      |x.figure.value - x.value| ≤ 1 / 200 ∧
      ∀ y : Binary64, y.isFinite = true → x.value ≤ y.value → x.figure.value ≤ y.figure.value := by
  have step : (0 : ℚ) < 1 / 100 := by norm_num
  have text := Binary64.toList_shown_eq_figure finite
  obtain ⟨k, multiple, nearest⟩ := Binary64.exists_nearestMultiple finite
  refine ⟨text, ?_, ?_, ?_, ?_, ?_⟩
  · rw [text, WrittenDecimal.head?_text_eq_minus_iff, Binary64.negative_figure]
  · intro small
    have whole := (Binary64.shownAsInteger_iff finite).mpr small
    refine ⟨?_, Binary64.value_figure_of_integer finite whole.1⟩
    rw [Binary64.figure, if_pos whole]
    rfl
  · intro other
    have places := mt (Binary64.shownAsInteger_iff finite).mp other
    refine ⟨?_, k, multiple, nearest⟩
    rw [Binary64.figure, if_neg places]
    exact WrittenDecimal.length_places_pointed _ _ (by decide)
  · have near := nearest.abs_sub_le step
    rw [← multiple] at near
    norm_num at near ⊢
    exact near
  · intro y finite' ordered
    obtain ⟨l, multiple', nearest'⟩ := Binary64.exists_nearestMultiple finite'
    have kept : (k : ℚ) ≤ l := by exact_mod_cast nearest.mono step nearest' ordered
    rw [multiple, multiple']
    exact mul_le_mul_of_nonneg_right kept step.le

/-- Minus one eighth lies halfway between two hundredths and is shown as the even one.  The negative
zero is an integer and is shown with its sign. -/
theorem shown_nearest_half :
    let x : Binary64 := ⟨0xbfc0000000000000⟩
    let y : Binary64 := ⟨0x8000000000000000⟩
    x.isFinite = true ∧ y.isFinite = true ∧ x.shown = "-0.12" ∧ y.shown = "-0" ∧
      x.figure.places.length = 2 ∧ NearestMultiple (1 / 100) (-(1 / 8)) (-12) ∧
      y.figure.places = [] ∧ x.figure.value ≤ y.figure.value := by
  intro x y
  have finite : x.isFinite = true := by decide
  have finite' : y.isFinite = true := by decide
  have negative : x.isNegative = true := by decide
  have value : x.value = -(1 / 8) := by
    have exponent : x.exponent = 1020 := by decide
    have fraction : x.fraction = 0 := by decide
    norm_num [Binary64.value, negative, exponent, fraction]
  have zero : y.value = 0 := by
    have exponent : y.exponent = 0 := by decide
    have fraction : y.fraction = 0 := by decide
    simp [Binary64.value, exponent, fraction]
  have figure : x.figure.value = -12 * (1 / 100) := by
    have hundredths : x.hundredths = 12 := by decide +kernel
    rw [Binary64.value_figure finite, negative, hundredths]
    norm_num
  have fractional : ¬ ((∃ n : ℤ, x.value = n) ∧ |x.value| < 10 ^ 10) :=
    mt (Binary64.shownAsInteger_iff finite).mpr (by decide +kernel)
  have integer : (∃ n : ℤ, y.value = n) ∧ |y.value| < 10 ^ 10 := by
    rw [zero]
    exact ⟨⟨0, Int.cast_zero.symm⟩, by norm_num⟩
  obtain ⟨-, -, -, other, -, ordered⟩ := shown_nearest finite
  obtain ⟨-, -, whole, -⟩ := shown_nearest finite'
  obtain ⟨two, k, multiple, nearest⟩ := other fractional
  have same : k = -12 := by
    rw [multiple] at figure
    have cast : (k : ℚ) = -12 := by linarith
    exact_mod_cast cast
  rw [value, same] at nearest
  have below : x.value ≤ y.value := by
    rw [value, zero]
    norm_num
  exact ⟨finite, finite', by decide +kernel, by decide +kernel, two, nearest, (whole integer).1,
    ordered y finite' below⟩

end NamedCells
