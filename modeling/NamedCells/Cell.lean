import NamedCells.Binary64

/-!
# Cells

A cell is a named double with a record of how often it was written and how the last write came
about.  When that was is not in the record: no answer and no decision depends on the clock.

## Main definitions

* `Cell` — a named value with its record.
* `Cell.create`, `Cell.write` — the first write and every later one.
-/

namespace NamedCells

/-- What produces the value of a cell. -/
inductive CellKind where
  /-- The value was given by a caller. -/
  | value
  deriving DecidableEq, Repr, Inhabited

/-- How a cell came by its value. -/
inductive Change where
  /-- The cell was created with it. -/
  | created
  /-- The cell was created once more, over an earlier value. -/
  | redefined
  /-- The value was assigned to the existing cell. -/
  | assigned
  deriving DecidableEq, Repr, Inhabited

/-- A named value with the record of its writes. -/
structure Cell where
  /-- The name by which the cell is found. -/
  name : String
  /-- What produces the value. -/
  kind : CellKind
  /-- The value of the latest write. -/
  value : Binary64
  /-- How many writes there were, the creation included. -/
  revision : Nat
  /-- How the latest write came about. -/
  lastChange : Change
  deriving DecidableEq, Repr

/-- A cell just created. -/
def Cell.create (name : String) (value : Binary64) : Cell :=
  ⟨name, .value, value, 1, .created⟩

/-- A cell after one more write. -/
def Cell.write (cell : Cell) (value : Binary64) (change : Change) : Cell :=
  { cell with
    value
    revision := cell.revision + 1
    lastChange := change }

end NamedCells
