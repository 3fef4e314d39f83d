import NamedCells.Binary64

/-!
# Reading a double

A number is an optional sign followed by digits with at most one point and at least one digit,
and an optional exponent, or by one of the words `inf`, `infinity` and `nan` in any mixture of
cases.  Nothing may stand before or after it.  The value is the double nearest to the decimal, so
a decimal that is too large reads as an infinity and one that is too small as a zero.

## Main definitions

* `Binary64.decimal?` — the digits and the exponent of an unsigned decimal.
* `Binary64.ofText?` — the double that a text denotes.
-/

namespace NamedCells.Binary64

/-- A sign, whether it is negative, and what follows it. -/
def takeSign : List Char → Bool × List Char
  | '-' :: rest => (true, rest)
  | '+' :: rest => (false, rest)
  | rest => (false, rest)

/-- The number that the digits of an exponent denote, where the digits after it has reached
2¹⁶ are ignored. -/
def exponentOfDigits (ds : List Char) : Nat :=
  ds.foldl (fun e d => if e < Nat.pow 2 16 then 10 * e + (d.toNat - '0'.toNat) else e) 0

/-- What may follow the digits of a decimal: nothing, which stands for exponent zero, or `e` and
an optionally signed numeral. -/
def exponent? : List Char → Option Int
  | [] => some 0
  | c :: rest =>
    if c = 'e' ∨ c = 'E' then
      let (negative, ds) := takeSign rest
      if ds ≠ [] ∧ ds.all Char.isDigit then
        let e : Int := exponentOfDigits ds
        some (if negative then -e else e)
      else none
    else none

/-- The digits after a point, if there is one, and what follows them. -/
def takeFraction : List Char → List Char × List Char
  | '.' :: rest => (rest.takeWhile Char.isDigit, rest.dropWhile Char.isDigit)
  | rest => ([], rest)

/-- `n` and `e` for an unsigned decimal of the value `n · 10ᵉ`. -/
def decimal? (cs : List Char) : Option (Nat × Int) :=
  let whole := cs.takeWhile Char.isDigit
  let (fraction, rest) := takeFraction (cs.dropWhile Char.isDigit)
  let ds := whole ++ fraction
  if ds = [] then none
  else (exponent? rest).map fun e => (Nat.ofDigitChars 10 ds 0, e - fraction.length)

/-- The values that are written as words. -/
def ofWord? (negative : Bool) (cs : List Char) : Option Binary64 :=
  let word := cs.map Char.toLower
  if word = "inf".toList ∨ word = "infinity".toList then some (infinity negative)
  else if word = "nan".toList then some (nan negative)
  else none

/-- The double that a list of characters denotes. -/
def ofChars? (cs : List Char) : Option Binary64 :=
  let (negative, magnitude) := takeSign cs
  match decimal? magnitude with
  | some (n, e) => some (ofDecimal negative n e)
  | none => ofWord? negative magnitude

/-- The double that a text denotes. -/
def ofText? (s : String) : Option Binary64 := ofChars? s.toList

end NamedCells.Binary64
