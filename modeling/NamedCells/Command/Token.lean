import NamedCells.Text.Blank

/-!
# Tokens of a command

The words of a command stand between blanks.  A word that begins with a double quote goes on to
the next double quote, whatever stands between, and may be followed at once by another word; any
other word goes on to the next blank, and quotes within it are part of it.

## Main definitions

* `Token.scan` — the words of a text from within a word or between two.
* `Token.words?` — the words of a command, unless a quote is left open.
-/

namespace NamedCells.Token

/-- Where a scan stands, with the characters of the word it is in, the latest first. -/
inductive State where
  /-- Between two words. -/
  | gap
  /-- In a word that a blank ends. -/
  | bare (word : List Char)
  /-- In a word that a quote ends. -/
  | quoted (word : List Char)
  deriving DecidableEq, Repr

/-- The words of a text, the first of which may have begun before it.  There are none if a quote
is left open. -/
def scan : State → List Char → Option (List (List Char))
  | .gap, [] => some []
  | .bare word, [] => some [word.reverse]
  | .quoted _, [] => none
  | .gap, c :: cs =>
    if Text.isBlank c then scan .gap cs
    else if c = '"' then scan (.quoted []) cs
    else scan (.bare [c]) cs
  | .bare word, c :: cs =>
    if Text.isBlank c then (scan .gap cs).map (word.reverse :: ·)
    else scan (.bare (c :: word)) cs
  | .quoted word, c :: cs =>
    if c = '"' then (scan .gap cs).map (word.reverse :: ·)
    else scan (.quoted (c :: word)) cs

/-- The words of a command, unless a quote is left open. -/
def words? (cs : List Char) : Option (List (List Char)) := scan .gap cs

end NamedCells.Token
