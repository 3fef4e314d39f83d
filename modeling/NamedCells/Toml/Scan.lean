/-!
# Reading a TOML document from its characters

A reader takes characters from the front of a document and gives back a result, or fails.  A
document that fails anywhere is no TOML at all, so failures carry no reason.

A line ends with a line feed, or with a carriage return and a line feed.  Nowhere else may a
carriage return stand, and the two kinds of line end mean the same, also within strings; so the
first step makes all line ends line feeds, and a carriage return that is left is an error.

## Main definitions

* `Toml.Reader` — readers.
* `Toml.withLineFeeds` — a document with line feeds as its line ends.
* `Toml.isTextChar` — the characters that comments and strings may hold.
* `Toml.skipBlanks`, `Toml.lineEnd`, `Toml.skipLines` — what may stand between the other parts.
-/

namespace NamedCells.Toml

/-- A reader of characters from the front of a document. -/
abbrev Reader := StateT (List Char) Option

/-- A document with line feeds as its line ends, after the characters `done`, which are in reverse
order. -/
def withLineFeedsFrom (done : List Char) : List Char → List Char
  | [] => done.reverse
  | '\r' :: '\n' :: rest => withLineFeedsFrom ('\n' :: done) rest
  | c :: rest => withLineFeedsFrom (c :: done) rest

/-- A document with line feeds as its line ends. -/
def withLineFeeds (cs : List Char) : List Char := withLineFeedsFrom [] cs

/-- The next character, which stays. -/
def peek? : Reader (Option Char) := fun cs => some (cs.head?, cs)

/-- Take the next character if it is `c`. -/
def takeIf (c : Char) : Reader Bool := fun cs =>
  match cs with
  | d :: rest => if d = c then some (true, rest) else some (false, cs)
  | [] => some (false, cs)

/-- Take the character `c` or fail. -/
def expect (c : Char) : Reader Unit := do
  if ← takeIf c then return () else failure

/-- Take characters as long as they belong to a class. -/
def takeWhile (p : Char → Bool) : Reader (List Char) := fun cs =>
  some (cs.takeWhile p, cs.dropWhile p)

/-- Take a result or fail. -/
def orFail {α : Type} : Option α → Reader α
  | some a => pure a
  | none => failure

/-- Blanks within a line. -/
def isBlank (c : Char) : Bool := c == ' ' || c == '\t'

/-- The characters that comments and strings may hold: all but the ASCII control characters, of
which the tab is allowed. -/
def isTextChar (c : Char) : Bool := c == '\t' || (' ' ≤ c && c != '\x7f')

/-- Skip blanks within a line. -/
def skipBlanks : Reader Unit := fun cs => some ((), cs.dropWhile isBlank)

/-- Skip the rest of a line after its content: blanks, a comment, and the line end, for which the
end of the document stands too. -/
def lineEnd : Reader Unit := fun cs =>
  let cs := cs.dropWhile isBlank
  match if cs.head? = some '#' then cs.dropWhile isTextChar else cs with
  | [] => some ((), [])
  | '\n' :: rest => some ((), rest)
  | _ => none

/-- Drop blanks, line ends and comments; `inComment` says that a comment is going on. -/
def dropLines (inComment : Bool) : List Char → List Char
  | [] => []
  | c :: rest =>
    if c = '\n' then dropLines false rest
    else if inComment then (if isTextChar c then dropLines true rest else c :: rest)
    else if isBlank c then dropLines false rest
    else if c = '#' then dropLines true rest
    else c :: rest

/-- Skip blanks, line ends and comments, as they may stand between the items of an array. -/
def skipLines : Reader Unit := fun cs => some ((), dropLines false cs)

end NamedCells.Toml
