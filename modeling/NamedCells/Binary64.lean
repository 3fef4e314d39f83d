import NamedCells.Rounding

/-!
# Double-precision numbers

A double is known by its 64 bits: a sign bit, eleven bits of exponent and fifty-two bits of
fraction.  Everything the library says about doubles is said with exact arithmetic on naturals,
which rests on one observation: the magnitude of every finite double is a whole number of
units of 2⁻¹⁰⁷⁴, the least positive double.  Two finite doubles compare as their counts of units
do, a double is an integer iff its count is a multiple of 2¹⁰⁷⁴, and rounding a rational to a
double is rounding a count of units to fifty-three significant bits.

## Main definitions

* `Binary64` — a double, by its bits.
* `Binary64.units` — the magnitude of a finite double, in units of 2⁻¹⁰⁷⁴.
* `Binary64.nearest s n d` — the double nearest to `n / d` with sign `s`.
* `Binary64.ofDecimal s n e` — the double nearest to `n · 10ᵉ` with sign `s`.
-/

namespace NamedCells

/-- A double-precision number, given by its bits.  Equality is equality of bits: the two zeros
differ, and two NaNs are equal iff their payloads are. -/
structure Binary64 where
  /-- Sign bit, eleven bits of exponent, fifty-two bits of fraction. -/
  bits : UInt64
  deriving DecidableEq, Repr, Inhabited

namespace Binary64

/-! ### Fields

Powers of naturals are written `Nat.pow`, which is the same with any imports. -/

/-- Whether the sign bit is set. -/
def isNegative (x : Binary64) : Bool := decide (Nat.pow 2 63 ≤ x.bits.toNat)

/-- The bits without the sign bit. -/
def magnitudeBits (x : Binary64) : Nat := x.bits.toNat % Nat.pow 2 63

/-- The biased exponent, `0` for zeros and subnormal numbers and `2047` for infinities and
NaNs. -/
def exponent (x : Binary64) : Nat := x.magnitudeBits / Nat.pow 2 52

/-- The fifty-two bits below the exponent. -/
def fraction (x : Binary64) : Nat := x.magnitudeBits % Nat.pow 2 52

/-- Neither infinite nor NaN. -/
def isFinite (x : Binary64) : Bool := decide (x.exponent ≠ 2047)

/-- Not a number: the greatest exponent with a fraction. -/
def isNaN (x : Binary64) : Bool := decide (x.exponent = 2047 ∧ x.fraction ≠ 0)

/-- An infinity of either sign: the greatest exponent without a fraction. -/
def isInfinite (x : Binary64) : Bool := decide (x.exponent = 2047 ∧ x.fraction = 0)

/-! ### Values -/

/-- How many units of 2⁻¹⁰⁷⁴ the number one is. -/
def unitsPerOne : Nat := Nat.pow 2 1074

/-- The magnitude of a finite double as a count of units of 2⁻¹⁰⁷⁴.  A subnormal number counts
its fraction; a normal one has the hidden bit above the fraction, and each further step of the
exponent doubles the count. -/
def units (x : Binary64) : Nat :=
  if x.exponent = 0 then x.fraction
  else (Nat.pow 2 52 + x.fraction) * Nat.pow 2 (x.exponent - 1)

/-- A finite double without a fractional part. -/
def isInteger (x : Binary64) : Bool := x.isFinite && x.units % unitsPerOne == 0

/-! ### Building doubles -/

/-- The double with the given sign and the given remaining sixty-three bits. -/
def ofMagnitudeBits (negative : Bool) (magnitude : Nat) : Binary64 :=
  ⟨.ofNat (if negative then Nat.pow 2 63 + magnitude else magnitude)⟩

/-- A zero. -/
def zero (negative : Bool) : Binary64 := ofMagnitudeBits negative 0

/-- An infinity. -/
def infinity (negative : Bool) : Binary64 := ofMagnitudeBits negative (2047 * Nat.pow 2 52)

/-- The NaN that has only the top bit of its fraction set. -/
def nan (negative : Bool) : Binary64 :=
  ofMagnitudeBits negative (2047 * Nat.pow 2 52 + Nat.pow 2 51)

/-- The bits, but for the sign, of the double nearest to `n / d` units; a tie goes to the even
fraction and what rounds beyond the greatest finite double is infinite.

Below 2⁵³ units every natural is a double and its bits are the number itself.  Above, the
quotient is rounded to fifty-three significant bits by dropping `drop` of them.  Adding the
rounded number to `drop` in the exponent field is right also when rounding carries into a
fifty-fourth bit, because the carry then moves the exponent up by one. -/
def magnitudeBitsOfUnits (n d : Nat) : Nat :=
  let drop := Nat.log2 (n / d) - 52
  min (drop * Nat.pow 2 52 + roundHalfEven n (d * Nat.pow 2 drop)) (2047 * Nat.pow 2 52)

/-- The double nearest to `n / d`, with the given sign. -/
def nearest (negative : Bool) (n d : Nat) : Binary64 :=
  ofMagnitudeBits negative (magnitudeBitsOfUnits (n * unitsPerOne) d)

/-- The double nearest to `n · 10ᵉ`, with the given sign. -/
def ofScaled (negative : Bool) (n : Nat) (e : Int) : Binary64 :=
  match e with
  | .ofNat k => nearest negative (n * Nat.pow 10 k) 1
  | .negSucc k => nearest negative n (Nat.pow 10 (k + 1))

/-- The double nearest to `n · 10ᵉ`, with the given sign.  Far exponents are answered without
their powers of ten: a nonzero `n · 10ᵉ` with `e` above 310 exceeds every finite double, and as `n`
is below 10 to the power `log2 n + 1`, it is less than half the least double if that exponent and
`e` together are below -330. -/
def ofDecimal (negative : Bool) (n : Nat) (e : Int) : Binary64 :=
  if n = 0 then zero negative
  else if 310 < e then infinity negative
  else if e + (Nat.log2 n + 1 : Nat) < -330 then zero negative
  else ofScaled negative n e

/-- The double nearest to a natural number. -/
def ofNat (n : Nat) : Binary64 := nearest false n 1

end Binary64

end NamedCells
