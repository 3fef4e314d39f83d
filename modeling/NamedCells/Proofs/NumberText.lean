import Mathlib.Data.List.TakeWhile
import NamedCells.Binary64.Reading
import NamedCells.Binary64.Shortest

/-!
# The text of a double reads back

The text of a double in messages is found by search, and what is found is tried before it is taken.
So the decimal that is printed rounds to the double for one of two reasons: it was tried, or it is
the exact value.  What is left to prove is that the reader finds this decimal in the text, and that
rounding an exact value gives it back.

## Main definitions

* `Binary64.Same` — equality up to identifying the NaNs.
* `Text.isBare` — the characters that words and numbers are written with.

## Main results

* `Binary64.decimal?_positional` — the reader finds the decimal that was written out.
* `Binary64.magnitudeBitsOfUnits_units` — a count of units that is that of a double is not rounded.
* `Binary64.ofText?_text` — **the text of a double reads back.**
* `Binary64.text_eq_iff` — texts tell doubles apart, but for the NaNs.
* `Binary64.isBare_of_ofChars?` — a text that denotes a double is a bare word.
-/

namespace NamedCells

/-- Two characters differ if one has a property that the other lacks. -/
theorem Text.ne_of_apply {p : Char → Bool} {c d : Char} (has : p c = true) (lacks : p d = false) :
    c ≠ d := by
  rintro rfl
  rw [has] at lacks
  cases lacks

namespace Binary64

/-! ### The decimal in a text -/

/-- A text that begins with another character has no sign. -/
theorem takeSign_of_head {c : Char} (minus : c ≠ '-') (plus : c ≠ '+') (cs : List Char) :
    takeSign (c :: cs) = (false, c :: cs) := by
  unfold takeSign
  split
  · next same => exact absurd (List.cons.inj same).1 minus
  · next same => exact absurd (List.cons.inj same).1 plus
  · rfl

/-- Digits alone are the decimal with their value. -/
theorem decimal?_digits {ds : List Char} (digits : ∀ c ∈ ds, c.isDigit = true)
    (nonempty : ds ≠ []) : decimal? ds = some (Nat.ofDigitChars 10 ds 0, 0) := by
  have whole : ds.takeWhile Char.isDigit = ds := List.takeWhile_eq_self_iff.mpr digits
  have rest : ds.dropWhile Char.isDigit = [] := List.dropWhile_eq_nil_iff.mpr digits
  simp [decimal?, whole, rest, takeFraction, nonempty, exponent?]

/-- Digits with a point among them are the decimal with the value of all of them, and the exponent
counts those after the point. -/
theorem decimal?_pointed_digits {ws fs : List Char} (whole : ∀ c ∈ ws, c.isDigit = true)
    (fraction : ∀ c ∈ fs, c.isDigit = true) (nonempty : ws ++ fs ≠ []) :
    decimal? (ws ++ '.' :: fs) = some (Nat.ofDigitChars 10 (ws ++ fs) 0, -(fs.length : Int)) := by
  have point : Char.isDigit '.' = false := by decide
  have before : (ws ++ '.' :: fs).takeWhile Char.isDigit = ws := by
    rw [List.takeWhile_append_of_pos whole]
    simp [point]
  have after : (ws ++ '.' :: fs).dropWhile Char.isDigit = '.' :: fs := by
    rw [List.dropWhile_append_of_pos whole]
    simp [point]
  have all : fs.takeWhile Char.isDigit = fs := List.takeWhile_eq_self_iff.mpr fraction
  have rest : fs.dropWhile Char.isDigit = [] := List.dropWhile_eq_nil_iff.mpr fraction
  simp only [decimal?, before, after, takeFraction, all, rest, nonempty, if_false, exponent?]
  simp

theorem isDigit_of_mem_zeros {k : Nat} {c : Char} (mem : c ∈ List.replicate k '0') :
    c.isDigit = true := by
  rw [List.eq_of_mem_replicate mem]
  rfl

/-- Zeros in front fill a numeral up to the places, if it is not too long. -/
theorem length_leftpad_numeral {n p : Nat} (positive : 0 < p) (below : n < Nat.pow 10 p) :
    ((numeral n).leftpad p '0').length = p := by
  have short : (numeral n).length ≤ p :=
    (Nat.length_toDigits_le_iff (by decide) positive).mpr below
  rw [List.length_leftpad]
  exact Nat.max_eq_left short

theorem isDigit_of_mem_leftpad_numeral {n p : Nat} {c : Char}
    (mem : c ∈ (numeral n).leftpad p '0') : c.isDigit = true := by
  rcases List.mem_append.mp mem with zero | last
  · exact isDigit_of_mem_zeros zero
  · exact isDigit_of_mem_numeral last

/-- **The reader finds the decimal that was written out.**  Zeros behind an integer are taken for
digits of it. -/
theorem decimal?_positional (n : Nat) (e : Int) :
    decimal? (positional n e) =
      some (match e with
        | .ofNat k => (n * Nat.pow 10 k, 0)
        | .negSucc k => (n, .negSucc k)) := by
  cases e with
  | ofNat k =>
    have digits : ∀ c ∈ numeral n ++ List.replicate k '0', c.isDigit = true := by
      intro c mem
      rcases List.mem_append.mp mem with front | zero
      · exact isDigit_of_mem_numeral front
      · exact isDigit_of_mem_zeros zero
    have nonempty : numeral n ++ List.replicate k '0' ≠ [] := by simp [numeral_ne_nil]
    rw [positional, decimal?_digits digits nonempty, Nat.ofDigitChars_append, ofDigitChars_numeral,
      Nat.ofDigitChars_replicate_zero, Nat.mul_comm]
    rfl
  | negSucc k =>
    -- the digits after the point are as many as the exponent says
    let fs := (numeral (n % Nat.pow 10 (k + 1))).leftpad (k + 1) '0'
    have length : fs.length = k + 1 :=
      length_leftpad_numeral (Nat.succ_pos k) (Nat.mod_lt n (Nat.pow_pos (by decide)))
    have whole : ∀ c ∈ numeral (n / Nat.pow 10 (k + 1)), c.isDigit = true :=
      fun c => isDigit_of_mem_numeral
    have fraction : ∀ c ∈ fs, c.isDigit = true := fun c => isDigit_of_mem_leftpad_numeral
    have nonempty : numeral (n / Nat.pow 10 (k + 1)) ++ fs ≠ [] := by simp [numeral_ne_nil]
    have value : Nat.ofDigitChars 10 fs 0 = n % Nat.pow 10 (k + 1) := by
      rw [show fs = List.replicate _ '0' ++ numeral _ from rfl, Nat.ofDigitChars_append,
        Nat.ofDigitChars_replicate_zero, Nat.mul_zero, ofDigitChars_numeral]
    have all : Nat.ofDigitChars 10 (numeral (n / Nat.pow 10 (k + 1)) ++ fs) 0 = n := by
      rw [Nat.ofDigitChars_append, ofDigitChars_numeral, Nat.ofDigitChars_eq_ofDigitChars_zero,
        value, length]
      exact Nat.div_add_mod n (10 ^ (k + 1))
    rw [positional, pointed, decimal?_pointed_digits whole fraction nonempty, all, length]
    rfl

/-! ### Rounding an exact value -/

/-- A double is known by its sign and its other bits. -/
theorem ofMagnitudeBits_self (x : Binary64) :
    ofMagnitudeBits x.isNegative x.magnitudeBits = x := by
  have bound : x.bits.toNat < 2 ^ 64 := x.bits.toNat_lt
  have bits : (if x.isNegative = true then Nat.pow 2 63 + x.magnitudeBits else x.magnitudeBits) =
      x.bits.toNat := by
    simp only [isNegative, magnitudeBits, decide_eq_true_eq, Nat.pow_eq]
    split <;> omega
  unfold ofMagnitudeBits
  rw [bits, UInt64.ofNat_toNat]

theorem magnitudeBits_eq (x : Binary64) :
    x.magnitudeBits = x.exponent * Nat.pow 2 52 + x.fraction := by
  simp only [exponent, fraction, Nat.pow_eq]
  omega

theorem fraction_lt (x : Binary64) : x.fraction < Nat.pow 2 52 :=
  Nat.mod_lt _ (Nat.pow_pos (by decide))

theorem exponent_le (x : Binary64) : x.exponent ≤ 2047 := by
  simp only [exponent, magnitudeBits, Nat.pow_eq]
  omega

theorem isFinite_iff {x : Binary64} : x.isFinite = true ↔ x.exponent < 2047 := by
  have bound := x.exponent_le
  simp only [isFinite, decide_eq_true_eq]
  omega

/-- Finite doubles are those below the infinity. -/
theorem isFinite_iff_magnitudeBits_lt {x : Binary64} :
    x.isFinite = true ↔ x.magnitudeBits < 2047 * Nat.pow 2 52 := by
  rw [isFinite_iff]
  simp only [exponent, Nat.pow_eq]
  omega

/-- The exponent of a double is one more than the number of bits that its units have beyond
fifty-three, or zero. -/
theorem units_eq (x : Binary64) :
    ∃ m, x.units = m * Nat.pow 2 (Nat.log2 x.units - 52) ∧
      (Nat.log2 x.units - 52) * Nat.pow 2 52 + m = x.magnitudeBits := by
  have small : x.fraction < 2 ^ 52 := x.fraction_lt
  rw [magnitudeBits_eq]
  by_cases subnormal : x.exponent = 0
  · -- the units are the fraction, which has at most fifty-two bits
    have units : x.units = x.fraction := by rw [Binary64.units, if_pos subnormal]
    have few : Nat.log2 x.fraction - 52 = 0 := by
      by_cases zero : x.fraction = 0
      · rw [zero]
        rfl
      · have log : Nat.log2 x.fraction < 52 := (Nat.log2_lt zero).mpr small
        omega
    refine ⟨x.fraction, ?_, ?_⟩
    · rw [units, few]
      exact (Nat.mul_one _).symm
    · rw [units, few, subnormal]
  · -- the hidden bit is the top bit of the units
    have units : x.units = (2 ^ 52 + x.fraction) * 2 ^ (x.exponent - 1) := by
      rw [Binary64.units, if_neg subnormal]
      rfl
    have positive : 0 < 2 ^ (x.exponent - 1) := Nat.pow_pos (by decide)
    have log : Nat.log2 x.units = 52 + (x.exponent - 1) := by
      have nonzero : x.units ≠ 0 := by
        rw [units]
        exact Nat.mul_ne_zero (by omega) (by omega)
      have next : 2 ^ (52 + (x.exponent - 1) + 1) = 2 ^ 53 * 2 ^ (x.exponent - 1) := by
        rw [← Nat.pow_add, Nat.add_right_comm]
      rw [Nat.log2_eq_iff nonzero, units, next, Nat.pow_add]
      exact ⟨Nat.mul_le_mul_right _ (by omega), Nat.mul_lt_mul_of_pos_right (by omega) positive⟩
    refine ⟨2 ^ 52 + x.fraction, ?_, ?_⟩
    · rw [log, Nat.add_sub_cancel_left]
      exact units
    · rw [log, Nat.add_sub_cancel_left]
      simp only [Nat.pow_eq]
      omega

/-- A count of units that is that of a double is not rounded. -/
theorem magnitudeBitsOfUnits_units {x : Binary64} (finite : x.isFinite = true) {d : Nat}
    (positive : 0 < d) : magnitudeBitsOfUnits (x.units * d) d = x.magnitudeBits := by
  obtain ⟨m, units, bits⟩ := x.units_eq
  have divided : x.units * d / d = x.units := Nat.mul_div_cancel _ positive
  have whole : x.units * d = m * (d * Nat.pow 2 (Nat.log2 x.units - 52)) := by
    calc x.units * d
        = m * Nat.pow 2 (Nat.log2 x.units - 52) * d := congrArg (· * d) units
      _ = m * (d * Nat.pow 2 (Nat.log2 x.units - 52)) := by
          rw [Nat.mul_assoc, Nat.mul_comm d]
  have unit : 0 < d * Nat.pow 2 (Nat.log2 x.units - 52) :=
    Nat.mul_pos positive (Nat.pow_pos (by decide))
  unfold magnitudeBitsOfUnits
  dsimp only
  rw [divided, whole, roundHalfEven_mul_right m unit, bits]
  exact Nat.min_eq_left (Nat.le_of_lt (isFinite_iff_magnitudeBits_lt.mp finite))

theorem ten_pow_pos (p : Nat) : 0 < Nat.pow 10 p := Nat.pow_pos (by decide)

theorem mul_five_pow_mul_two_pow (n p : Nat) :
    n * Nat.pow 5 p * Nat.pow 2 p = n * Nat.pow 10 p := by
  rw [Nat.mul_assoc]
  exact congrArg (n * ·) (Nat.mul_pow 5 2 p).symm

/-- A number that is not zero has at least `p` more bits when it is multiplied by `5ᵖ`. -/
theorem le_log2_mul_five_pow {n : Nat} (nonzero : n ≠ 0) (p : Nat) :
    n * Nat.pow 5 p ≠ 0 ∧ p ≤ Nat.log2 (n * Nat.pow 5 p) := by
  have large : 2 ^ p ≤ n * Nat.pow 5 p :=
    calc 2 ^ p
        ≤ Nat.pow 5 p := Nat.pow_le_pow_left (by decide) p
      _ ≤ n * Nat.pow 5 p := Nat.le_mul_of_pos_left _ (Nat.pos_of_ne_zero nonzero)
  have positive : 0 < 2 ^ p := Nat.pow_pos (by decide)
  have product : n * Nat.pow 5 p ≠ 0 := by omega
  exact ⟨product, (Nat.le_log2 product).mpr large⟩

/-- A fraction that is equal to a double is not rounded either. -/
theorem nearest_of_units {x : Binary64} (finite : x.isFinite = true) {n d : Nat} (positive : 0 < d)
    (equal : n * unitsPerOne = x.units * d) : nearest x.isNegative n d = x := by
  rw [nearest, equal, magnitudeBitsOfUnits_units finite positive, ofMagnitudeBits_self]

/-- Nor is the double itself when it is written exactly, as a multiple of 10⁻¹⁰⁷⁴. -/
theorem ofDecimal_exact {x : Binary64} (finite : x.isFinite = true) (nonzero : x.units ≠ 0) :
    ofDecimal x.isNegative (x.units * Nat.pow 5 1074) (-1074) = x := by
  obtain ⟨product, digits⟩ := le_log2_mul_five_pow nonzero 1074
  have noOverflow : ¬ (310 : Int) < -1074 := by decide
  have noUnderflow (l : Nat) (many : 1074 ≤ l) : ¬ (-1074 : Int) + (l + 1 : Nat) < -330 := by
    omega
  unfold ofDecimal
  rw [if_neg product, if_neg noOverflow, if_neg (noUnderflow _ digits)]
  exact nearest_of_units finite (ten_pow_pos 1074) (mul_five_pow_mul_two_pow x.units 1074)

/-! ### The search -/

/-- A decimal that the search finds was tried. -/
theorem ofDecimal_of_onGrid? {x : Binary64} {e : Int} {m : Nat} (found : x.onGrid? e = some m) :
    ofDecimal x.isNegative m e = x := by
  have tried := List.find?_some found
  exact of_decide_eq_true tried

/-- **The decimal of a double rounds to it.** -/
theorem ofDecimal_shortest {x : Binary64} (finite : x.isFinite = true) (nonzero : x.units ≠ 0) :
    ofDecimal x.isNegative x.shortest.1 x.shortest.2 = x := by
  unfold shortest
  dsimp only
  rcases found : (List.range 20).findSome? _ with _ | ⟨m, e⟩
  · -- nothing was found, and the exact value stands by
    exact ofDecimal_exact finite nonzero
  · obtain ⟨i, -, tried⟩ := List.exists_of_findSome?_eq_some found
    obtain ⟨k, hit, same⟩ := Option.map_eq_some_iff.mp tried
    obtain ⟨rfl, rfl⟩ := Prod.mk.inj same
    exact ofDecimal_of_onGrid? hit

/-- An infinity is not finite. -/
theorem isFinite_infinity (negative : Bool) : (infinity negative).isFinite = false := by
  cases negative <;> decide

/-- An integer may be read with its zeros as digits or as an exponent: unless it is too large for a
double, it is rounded in the same way. -/
theorem ofDecimal_mul_pow {negative : Bool} {n k : Nat}
    (finite : (ofDecimal negative n (.ofNat k)).isFinite = true) :
    ofDecimal negative (n * Nat.pow 10 k) 0 = ofDecimal negative n (.ofNat k) := by
  unfold ofDecimal at finite ⊢
  by_cases zero : n = 0
  · simp [zero]
  · have product : n * Nat.pow 10 k ≠ 0 := Nat.mul_ne_zero zero (Nat.ne_of_gt (ten_pow_pos k))
    rw [if_neg zero] at finite ⊢
    have small : ¬ (310 : Int) < .ofNat k := by
      intro large
      rw [if_pos large, isFinite_infinity] at finite
      cases finite
    have noUnderflow (l : Nat) (e : Int) (nonneg : 0 ≤ e) : ¬ e + (l + 1 : Nat) < -330 := by
      omega
    rw [if_neg product, if_neg small, if_neg (noUnderflow _ (.ofNat k) (Int.natCast_nonneg k)),
      if_neg (by decide), if_neg (noUnderflow _ 0 (Int.le_refl 0))]
    show nearest negative (n * Nat.pow 10 k * 1) 1 = nearest negative (n * Nat.pow 10 k) 1
    rw [Nat.mul_one]

/-- A number that is written out begins with a digit. -/
theorem exists_positional_eq_cons (n : Nat) (e : Int) :
    ∃ c cs, positional n e = c :: cs ∧ c.isDigit = true := by
  have front (m : Nat) (rest : List Char) :
      ∃ c cs, numeral m ++ rest = c :: cs ∧ c.isDigit = true := by
    obtain ⟨c, cs, digits, digit⟩ := exists_numeral_eq_cons m
    exact ⟨c, cs ++ rest, by rw [digits, List.cons_append], digit⟩
  cases e with
  | ofNat k => exact front n _
  | negSucc k => exact front _ _

/-- What is read of a magnitude with a sign in front, or of one that begins with no sign: a decimal
if there is one, and otherwise a word. -/
theorem ofChars?_signed (negative : Bool) {c : Char} (minus : c ≠ '-') (plus : c ≠ '+')
    (cs : List Char) :
    ofChars? (if negative then '-' :: c :: cs else c :: cs) =
      ((decimal? (c :: cs)).map fun d => ofDecimal negative d.1 d.2).or
        (ofWord? negative (c :: cs)) := by
  have signed : takeSign (if negative then '-' :: c :: cs else c :: cs) = (negative, c :: cs) := by
    cases negative with
    | true => rfl
    | false => exact takeSign_of_head minus plus cs
  simp only [ofChars?, signed]
  cases decimal? (c :: cs) <;> rfl

/-! ### Texts -/

/-- Equality up to identifying the NaNs. -/
def Same (x y : Binary64) : Prop := x = y ∨ (x.isNaN = true ∧ y.isNaN = true)

instance (x y : Binary64) : Decidable (x.Same y) := inferInstanceAs (Decidable (_ ∨ _))

theorem Same.symm {x y : Binary64} (same : x.Same y) : y.Same x :=
  Or.imp Eq.symm And.symm same

theorem Same.trans {x y z : Binary64} (first : x.Same y) (second : y.Same z) : x.Same z := by
  rcases first with rfl | ⟨nanX, nanY⟩
  · exact second
  · rcases second with rfl | ⟨-, nanZ⟩
    · exact .inr ⟨nanX, nanY⟩
    · exact .inr ⟨nanX, nanZ⟩

/-- The text of an infinity reads back. -/
theorem ofChars?_infinite {x : Binary64} (infinite : x.isInfinite = true) :
    ofChars? (if x.isNegative then '-' :: "inf".toList else "inf".toList) = some x := by
  obtain ⟨exponent, fraction⟩ := of_decide_eq_true infinite
  have same : infinity x.isNegative = x := by
    have bits : x.magnitudeBits = 2047 * Nat.pow 2 52 := by
      rw [magnitudeBits_eq, exponent, fraction]
    rw [infinity, ← bits, ofMagnitudeBits_self]
  calc ofChars? (if x.isNegative then '-' :: "inf".toList else "inf".toList)
      = some (infinity x.isNegative) := ofChars?_signed x.isNegative (by decide) (by decide) _
    _ = some x := by rw [same]

/-- The text of a zero reads back. -/
theorem ofChars?_zero {x : Binary64} (zero : x.units = 0) :
    ofChars? (if x.isNegative then ['-', '0'] else ['0']) = some x := by
  have same : Binary64.zero x.isNegative = x := by
    obtain ⟨m, units, bits⟩ := x.units_eq
    have factor : m = 0 := by
      rw [zero] at units
      exact (Nat.mul_eq_zero.mp units.symm).resolve_right (Nat.ne_of_gt (Nat.pow_pos (by decide)))
    have none : x.magnitudeBits = 0 := by
      rw [← bits, zero, factor]
      rfl
    rw [Binary64.zero, ← none, ofMagnitudeBits_self]
  calc ofChars? (if x.isNegative then ['-', '0'] else ['0'])
      = some (ofDecimal x.isNegative 0 0) := ofChars?_signed x.isNegative (by decide) (by decide) _
    _ = some x := by rw [ofDecimal, if_pos rfl, same]

/-- A decimal that rounds to a double is read back as the double when it is written out. -/
theorem ofChars?_positional {x : Binary64} (finite : x.isFinite = true) {n : Nat} {e : Int}
    (rounds : ofDecimal x.isNegative n e = x) :
    ofChars? (if x.isNegative then '-' :: positional n e else positional n e) = some x := by
  obtain ⟨c, cs, written, digit⟩ := exists_positional_eq_cons n e
  have minus : c ≠ '-' := Text.ne_of_apply digit (by decide)
  have plus : c ≠ '+' := Text.ne_of_apply digit (by decide)
  rw [written, ofChars?_signed x.isNegative minus plus, ← written, decimal?_positional]
  cases e with
  | ofNat k =>
    have small : (ofDecimal x.isNegative n (.ofNat k)).isFinite = true := by rw [rounds, finite]
    show some (ofDecimal x.isNegative (n * Nat.pow 10 k) 0) = some x
    rw [ofDecimal_mul_pow small, rounds]
  | negSucc k =>
    show some (ofDecimal x.isNegative n (.negSucc k)) = some x
    rw [rounds]

/-- The text of a double that is a number, be it infinite, reads back. -/
theorem ofText?_text_of_number {x : Binary64} (number : x.isNaN = false) :
    ofText? x.text = some x := by
  unfold ofText? text
  rw [if_neg (by simp [number]), String.toList_ofList]
  by_cases infinite : x.isInfinite = true
  · simp only [infinite, if_true]
    exact ofChars?_infinite infinite
  · have finite : x.isFinite = true := by
      simp only [isNaN, isInfinite, isFinite, decide_eq_true_eq, decide_eq_false_iff_not] at *
      omega
    by_cases zero : x.units = 0
    · simp only [infinite, zero, if_true]
      exact ofChars?_zero zero
    · simp only [infinite, zero, if_false]
      exact ofChars?_positional finite (ofDecimal_shortest finite zero)

/-- **The text of a double reads back**, but for the sign and the payload of a NaN. -/
theorem ofText?_text (x : Binary64) : ∃ y, ofText? x.text = some y ∧ y.Same x := by
  cases number : x.isNaN with
  | false => exact ⟨x, ofText?_text_of_number number, .inl rfl⟩
  | true =>
    have words : x.text = "NaN" := if_pos number
    rw [words]
    exact ⟨nan false, rfl, .inr ⟨by decide, number⟩⟩

/-- Texts tell doubles apart, but for the NaNs. -/
theorem text_eq_iff {x y : Binary64} : x.text = y.text ↔ x.Same y := by
  constructor
  · intro same
    obtain ⟨u, readX, sameX⟩ := ofText?_text x
    obtain ⟨v, readY, sameY⟩ := ofText?_text y
    obtain rfl : u = v := by
      rw [same, readY] at readX
      exact (Option.some.inj readX).symm
    exact sameX.symm.trans sameY
  · rintro (rfl | ⟨nanX, nanY⟩)
    · rfl
    · rw [text, if_pos nanX, text, if_pos nanY]

end Binary64

/-! ### Bare words -/

/-- The characters that words and numbers are written with. -/
def Text.isBare (c : Char) : Bool := c.isAlphanum || c = '+' || c = '-' || c = '.'

theorem Text.isBare_of_isDigit {c : Char} (digit : c.isDigit = true) : isBare c = true := by
  simp [isBare, Char.isAlphanum, digit]

/-- A character that is a letter when it is in lower case is one. -/
theorem Text.isBare_of_isAlpha_toLower {c : Char} (letter : c.toLower.isAlpha = true) :
    isBare c = true := by
  have original : c.isAlpha = true := by
    unfold Char.toLower at letter
    split at letter
    · next upper => exact Bool.or_eq_true_iff.mpr (.inl (decide_eq_true upper))
    · exact letter
  simp [isBare, Char.isAlphanum, original]

namespace Binary64

/-- A sign is a bare character. -/
theorem isBare_of_takeSign {cs : List Char} (rest : ∀ c ∈ (takeSign cs).2, Text.isBare c = true) :
    ∀ c ∈ cs, Text.isBare c = true := by
  unfold takeSign at rest
  split at rest
  · exact List.forall_mem_cons.mpr ⟨by decide, rest⟩
  · exact List.forall_mem_cons.mpr ⟨by decide, rest⟩
  · exact rest

theorem isBare_of_exponent? {cs : List Char} {e : Int} (read : exponent? cs = some e) :
    ∀ c ∈ cs, Text.isBare c = true := by
  cases cs with
  | nil => exact fun c mem => absurd mem List.not_mem_nil
  | cons c rest =>
    rw [exponent?] at read
    split at read
    · next letter =>
      dsimp only at read
      split at read
      · next digits =>
        have first : Text.isBare c = true := by rcases letter with rfl | rfl <;> decide
        have last : ∀ d ∈ rest, Text.isBare d = true :=
          isBare_of_takeSign fun d mem =>
            Text.isBare_of_isDigit (List.all_eq_true.mp digits.2 d mem)
        exact List.forall_mem_cons.mpr ⟨first, last⟩
      · cases read
    · cases read

theorem isBare_of_takeWhile {cs : List Char}
    (rest : ∀ c ∈ cs.dropWhile Char.isDigit, Text.isBare c = true) :
    ∀ c ∈ cs, Text.isBare c = true := by
  intro c mem
  rw [← List.takeWhile_append_dropWhile (p := Char.isDigit) (l := cs)] at mem
  rcases List.mem_append.mp mem with digit | after
  · exact Text.isBare_of_isDigit (List.mem_takeWhile_imp digit)
  · exact rest c after

theorem isBare_of_takeFraction {cs : List Char}
    (rest : ∀ c ∈ (takeFraction cs).2, Text.isBare c = true) :
    ∀ c ∈ cs, Text.isBare c = true := by
  unfold takeFraction at rest
  split at rest
  · exact List.forall_mem_cons.mpr ⟨by decide, isBare_of_takeWhile rest⟩
  · exact rest

theorem isBare_of_decimal? {cs : List Char} {d : Nat × Int} (read : decimal? cs = some d) :
    ∀ c ∈ cs, Text.isBare c = true := by
  unfold decimal? at read
  dsimp only at read
  split at read
  · cases read
  · obtain ⟨e, exponent, -⟩ := Option.map_eq_some_iff.mp read
    exact isBare_of_takeWhile (isBare_of_takeFraction (isBare_of_exponent? exponent))

theorem isBare_of_ofWord? {negative : Bool} {cs : List Char} {x : Binary64}
    (read : ofWord? negative cs = some x) : ∀ c ∈ cs, Text.isBare c = true := by
  have letters : (cs.map Char.toLower).all Char.isAlpha = true := by
    unfold ofWord? at read
    dsimp only at read
    split at read
    · next word => rcases word with word | word <;> rw [word] <;> decide
    split at read
    · next word =>
      rw [word]
      decide
    · cases read
  intro c mem
  exact Text.isBare_of_isAlpha_toLower (List.all_eq_true.mp letters _ (List.mem_map_of_mem mem))

/-- **A text that denotes a double is a bare word.** -/
theorem isBare_of_ofChars? {cs : List Char} {x : Binary64} (read : ofChars? cs = some x) :
    ∀ c ∈ cs, Text.isBare c = true := by
  refine isBare_of_takeSign ?_
  unfold ofChars? at read
  dsimp only at read
  split at read
  · next decimal => exact isBare_of_decimal? decimal
  · exact isBare_of_ofWord? read

/-- The text of a double is a bare word. -/
theorem isBare_of_text {x : Binary64} : ∀ c ∈ x.text.toList, Text.isBare c = true := by
  obtain ⟨y, read, -⟩ := ofText?_text x
  exact isBare_of_ofChars? read

end Binary64

end NamedCells
