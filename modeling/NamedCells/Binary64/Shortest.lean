import NamedCells.Binary64
import NamedCells.Numeral

/-!
# The shortest text of a double

The text of a finite double in messages is the decimal with the fewest digits that reads back as
that double, and of those the one nearest to it.  It is found on decimal grids, the multiples of
10ᵉ, from a coarse grid to finer ones: if any point of a grid reads back as `x` then one of the
two neighbours of `x` on that grid does, so two trials on each grid are enough.  A coarser grid
has fewer digits, hence the first grid with a hit gives the shortest decimal.

## Main definitions

* `Binary64.onGrid? x e` — the neighbour of `x` among the multiples of 10ᵉ that reads back as `x`.
* `Binary64.shortest x` — digits and exponent of the shortest decimal that reads back as `x`.
* `Binary64.text x` — the shortest decimal written positionally, with words for the other values.
-/

namespace NamedCells.Binary64

/-- The magnitude of `x` as a quotient that counts multiples of 10ᵉ. -/
def onGrid (x : Binary64) : Int → Nat × Nat
  | .ofNat k => (x.units, unitsPerOne * Nat.pow 10 k)
  | .negSucc k => (x.units * Nat.pow 10 (k + 1), unitsPerOne)

/-- The `m` for which `m · 10ᵉ` is next to the magnitude of `x` and reads back as `x`.  If both
neighbours do, it is the nearer one, and the greater one if they are equally near. -/
def onGrid? (x : Binary64) (e : Int) : Option Nat :=
  let (n, d) := x.onGrid e
  let below := n / d
  let above := below + 1
  let byNearness := if d ≤ 2 * (n % d) then [above, below] else [below, above]
  byNearness.find? fun m => ofDecimal x.isNegative m e = x

/-- An exponent whose grid is not finer than the shortest decimal of `x` needs: the power of ten
is at least the power of two below `x`, by log₁₀ 2 < 0.30103. -/
def coarsestExponent (x : Binary64) : Int :=
  ((Nat.log2 x.units : Int) - 1074) * 30103 / 100000 + 1

/-- The shortest decimal that reads back as the finite, nonzero `x`.  Seventeen digits always
suffice, which the twenty grids tried cover.  The exact value of `x`, whose unit 2⁻¹⁰⁷⁴ is
5¹⁰⁷⁴ · 10⁻¹⁰⁷⁴, stands by so that the answer reads back whatever the search did. -/
def shortest (x : Binary64) : Nat × Int :=
  let found := (List.range 20).findSome? fun (i : Nat) =>
    let e := x.coarsestExponent - i
    (x.onGrid? e).map fun m => (m, e)
  found.getD (x.units * Nat.pow 5 1074, -1074)

/-- The text of a double in messages: the shortest decimal that reads back, in positional
notation whatever the exponent.  NaN has no sign. -/
def text (x : Binary64) : String :=
  if x.isNaN then "NaN"
  else
    let magnitude :=
      if x.isInfinite then "inf".toList
      else if x.units = 0 then ['0']
      else let (n, e) := x.shortest; positional n e
    String.ofList (if x.isNegative then '-' :: magnitude else magnitude)

end NamedCells.Binary64
