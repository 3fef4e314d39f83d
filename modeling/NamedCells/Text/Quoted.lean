import NamedCells.Text.Unprintable
import NamedCells.Text.GraphemeExtend

/-!
# Quoted texts

Names and characters stand in messages between quotation marks, written so that every character
can be told: marks and backslashes are escaped by a backslash, five control characters have short
escapes, and a character that would be invisible, or would attach itself to the one before it, is
written as its code point.

## Main definitions

* `Text.escape mark c` — how `c` is written between two marks.
* `Text.quote s` — a text in double quotes.
* `Text.quoteChar c` — a character in single quotes.
-/

namespace NamedCells.Text

/-- A character written as its code point in lower-case hexadecimal digits. -/
def codePointEscape (c : Char) : List Char :=
  ['\\', 'u', '\x7b'] ++ Nat.toDigits 16 c.toNat ++ ['\x7d']

/-- How a character is written between two quotation marks `mark`.  The other kind of mark needs
no escape. -/
def escape (mark c : Char) : List Char :=
  if c = '\x00' then ['\\', '0']
  else if c = '\t' then ['\\', 't']
  else if c = '\n' then ['\\', 'n']
  else if c = '\r' then ['\\', 'r']
  else if c = '\\' ∨ c = mark then ['\\', c]
  else if isUnprintable c || isAttached c then codePointEscape c
  else [c]

/-- A text between two quotation marks. -/
def between (mark : Char) (cs : List Char) : List Char :=
  mark :: cs.flatMap (escape mark) ++ [mark]

/-- A text in double quotes. -/
def quote (s : String) : String := String.ofList (between '"' s.toList)

/-- A character in single quotes. -/
def quoteChar (c : Char) : String := String.ofList (between '\'' [c])

end NamedCells.Text
