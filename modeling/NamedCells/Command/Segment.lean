import NamedCells.Text.Blank

/-!
# Segments of a script

A script is cut into segments, one command each.  Every line end cuts; a semicolon cuts unless it
stands in double quotes, that is after an odd number of quotes in its line.  Blanks around a
segment do not belong to it, and a segment that is empty or begins with `#` is no command.

## Main definitions

* `Script.pieces` — a text cut at its separators.
* `Script.segments` — the pieces that are commands.
-/

namespace NamedCells.Script

/-- The state of a scan: whether the next character is in quotes, the characters since the last
cut and the pieces before it, both latest first. -/
structure Scan where
  /-- Whether an odd number of quotes stands between the last line end and here. -/
  quoted : Bool
  /-- The characters since the last cut, the latest first. -/
  piece : List Char
  /-- The pieces before the last cut, the latest first. -/
  done : List (List Char)
  deriving DecidableEq, Repr

/-- Scan a character. -/
def Scan.step (s : Scan) (c : Char) : Scan :=
  if c = '\n' then ⟨false, [], s.piece.reverse :: s.done⟩
  else if c = ';' ∧ s.quoted = false then ⟨false, [], s.piece.reverse :: s.done⟩
  else ⟨if c = '"' then !s.quoted else s.quoted, c :: s.piece, s.done⟩

/-- The pieces of a scan that has come to the end of its text. -/
def Scan.finish (s : Scan) : List (List Char) := (s.piece.reverse :: s.done).reverse

/-- The pieces between the line ends and the unquoted semicolons of a text. -/
def pieces (cs : List Char) : List (List Char) := (cs.foldl Scan.step ⟨false, [], []⟩).finish

/-- Whether a trimmed piece is a command. -/
def isCommand (cs : List Char) : Bool := !cs.isEmpty && cs.head? != some '#'

/-- The segments of a text, in order. -/
def segmentsOf (cs : List Char) : List (List Char) :=
  ((pieces cs).map Text.trim).filter isCommand

/-- The segments of a script, in order. -/
def segments (script : String) : List String := (segmentsOf script.toList).map String.ofList

end NamedCells.Script
