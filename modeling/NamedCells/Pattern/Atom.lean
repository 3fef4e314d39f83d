import NamedCells.Numeral
import NamedCells.Pattern
import NamedCells.Text.Blank

/-!
# Reading the atoms of a pattern

A pattern is read from its front by readers that take characters away or fail.  What a backslash
begins is an atom: a character that would not stand for itself without it, a character by its code
point, a class of characters, or a place between characters.

A pattern is never longer than the field of a directive that it stands in, which ends at the first
closing brace.  Nothing in a pattern that needs two braces can therefore be complete: there are no
counted repetitions, and code points and categories have no braces around them.

## Main definitions

* `Pattern.Reader` — readers of a pattern.
* `Pattern.skipBlanks` — skip what does not count in a verbose pattern.
* `Pattern.escape` — what a backslash begins.
-/

namespace NamedCells.Pattern

/-! ### Readers -/

/-- Where the reading of a pattern stands. -/
structure Cursor where
  /-- The characters that are not read yet. -/
  rest : List Char
  /-- Whether blanks and comments between the parts of the pattern do not count. -/
  verbose : Bool
  /-- The names of the groups read so far. -/
  names : List (List Char)

/-- A reader of characters from the front of a pattern. -/
abbrev Reader := StateT Cursor Option

/-- The next character, which stays. -/
def peek? : Reader (Option Char) := fun s => some (s.rest.head?, s)

/-- Take the next character, or fail at the end. -/
def next : Reader Char := fun s =>
  match s.rest with
  | [] => none
  | c :: rest => some (c, { s with rest })

/-- Go on with other characters. -/
def goOn (rest : List Char) : Reader Unit := fun s => some ((), { s with rest })

/-- Drop blanks and comments, which go from a number sign to the end of the line; `inComment` says
that a comment is going on. -/
def dropBlanks (inComment : Bool) : List Char → List Char
  | [] => []
  | c :: rest =>
    if inComment then dropBlanks (c != '\n') rest
    else if Text.isBlank c then dropBlanks false rest
    else if c = '#' then dropBlanks true rest
    else c :: rest

/-- Skip blanks and comments if the pattern is verbose. -/
def skipBlanks : Reader Unit := fun s =>
  some ((), if s.verbose then { s with rest := dropBlanks false s.rest } else s)

/-! ### Escapes -/

/-- The number that so many hexadecimal digits denote, after those that denote `code`. -/
def hexDigits : Nat → Nat → Reader Nat
  | 0, code => return code
  | count + 1, code => do
    match hexValue? (← next) with
    | some d =>
      skipBlanks
      hexDigits count (16 * code + d)
    | none => failure

/-- A character by its code point of so many hexadecimal digits. -/
def byCodePoint (count : Nat) (isByte : Bool) : Reader Atom := do
  skipBlanks
  let code ← hexDigits count 0
  if code.isValidChar then return .literal ⟨Char.ofNat code, isByte⟩ else failure

/-- The letters, in lower case, that stand for general categories. -/
def categoryLetters : List Char := ['c', 'l', 'm', 'n', 'p', 's', 'z']

/-- A general category by its letter. -/
def category : Reader Atom := do
  skipBlanks
  let letter ← next
  skipBlanks
  if categoryLetters.contains letter.toLower then return .property else failure

/-- The control characters that letters after a backslash stand for. -/
def controlLetter? : Char → Option Char
  | 'a' => some '\x07'
  | 'f' => some '\x0c'
  | 'n' => some '\n'
  | 'r' => some '\r'
  | 't' => some '\t'
  | 'v' => some '\x0b'
  | _ => none

/-- The characters that stand for themselves after a backslash: those of ASCII that are neither
letters nor digits. -/
def isEscapable (c : Char) : Bool := c.toNat < 0x80 && !c.isAlphanum

/-- What follows a backslash. -/
def escape : Reader Atom := do
  match ← next with
  | 'x' => byCodePoint 2 true
  | 'u' => byCodePoint 4 false
  | 'U' => byCodePoint 8 false
  | 'p' | 'P' => category
  | 'd' | 's' | 'w' => return .shorthand false
  | 'D' | 'S' | 'W' => return .shorthand true
  | 'A' | 'z' => return .anchor
  | 'b' | 'B' | '<' | '>' => return .wordBoundary
  | c =>
    match controlLetter? c with
    | some control => return .literal ⟨control, false⟩
    | none => if isEscapable c then return .literal ⟨c, false⟩ else failure

end NamedCells.Pattern
