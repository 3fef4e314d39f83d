import NamedCells.Binary64
import NamedCells.Numeral

/-!
# The number a reader is shown

Cells are shown to a reader in a fixed form: an integer below 10¹⁰ in magnitude without a point,
every other number with exactly two places.

## Main definitions

* `Binary64.shown` — the text of a number as a cell shows it.
-/

namespace NamedCells.Binary64

/-- How many digits follow the point of a number that is not shown as an integer. -/
def shownPlaces : Nat := 2

/-- The least magnitude that is shown with places even if it is an integer. -/
def shownIntegerBound : Nat := Nat.pow 10 10

/-- The digits of the magnitude of a finite number, as they are shown.  Rounding to the places is
to the nearest multiple, and a tie goes to the even one. -/
def shownMagnitude (x : Binary64) : List Char :=
  if x.isInteger ∧ x.units < shownIntegerBound * unitsPerOne then
    numeral (x.units / unitsPerOne)
  else
    pointed (roundHalfEven (x.units * Nat.pow 10 shownPlaces) unitsPerOne) shownPlaces

/-- The text of a number as a cell shows it.  The sign is the sign bit, also where the digits are
all zeros; the values that are not numbers have words that no numeral can be. -/
def shown (x : Binary64) : String :=
  if x.isNaN then "#NAN!"
  else
    let magnitude := if x.isInfinite then "#INF!".toList else x.shownMagnitude
    String.ofList (if x.isNegative then '-' :: magnitude else magnitude)

end NamedCells.Binary64
