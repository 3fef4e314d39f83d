import NamedCells.Text.Ranges

/-!
# Blank characters

The characters with the property `White_Space`: the ASCII blanks, the next-line control, the
no-break space and the spaces and separators of the scripts that have their own.

## Main definitions

* `Text.isBlank c` — `c` is white space.
* `Text.trim cs` — `cs` without blanks at either end.
-/

namespace NamedCells.Text

/-- The code points with the property `White_Space`, as inclusive ranges in ascending order. -/
def blankRanges : List (Nat × Nat) := [
    (0x09, 0x0d), (0x20, 0x20), (0x85, 0x85), (0xa0, 0xa0), (0x1680, 0x1680), (0x2000, 0x200a),
    (0x2028, 0x2029), (0x202f, 0x202f), (0x205f, 0x205f), (0x3000, 0x3000)]

/-- White space, in any script. -/
def isBlank (c : Char) : Bool := inRanges blankRanges c

/-- A text without the blanks at its beginning. -/
def trimStart (cs : List Char) : List Char := cs.dropWhile isBlank

/-- A text without the blanks at its end. -/
def trimEnd (cs : List Char) : List Char := (cs.reverse.dropWhile isBlank).reverse

/-- A text without the blanks at either end. -/
def trim (cs : List Char) : List Char := trimEnd (trimStart cs)

@[simp] theorem trim_nil : trim [] = [] := rfl

end NamedCells.Text
