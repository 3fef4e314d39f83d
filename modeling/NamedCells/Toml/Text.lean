import NamedCells.Numeral
import NamedCells.Toml.Scan

/-!
# Strings of a TOML document

A string stands in quotation marks, where a backslash begins an escape, or in apostrophes, where
every character stands for itself.  A string between three marks may go over several lines: a line
end just after the opening marks is dropped, and one or two marks may stand within it or before the
closing ones.  A backslash that is the last of its line joins the line to what follows the blanks
and line ends after it.

## Main definitions

* `Toml.Escape` — where the reading of an escape stands.
* `Toml.string` — a string of one line or of several.
* `Toml.lineString` — a string of one line, as it may also stand for a key.
-/

namespace NamedCells.Toml

/-! ### Escapes -/

/-- The character that a single letter after a backslash stands for. -/
def shortEscape? : Char → Option Char
  | 'b' => some '\x08'
  | 't' => some '\t'
  | 'n' => some '\n'
  | 'f' => some '\x0c'
  | 'r' => some '\r'
  | '"' => some '"'
  | '\\' => some '\\'
  | _ => none

/-- Where the reading of an escape stands. -/
inductive Escape where
  /-- There is no escape. -/
  | plain
  /-- A backslash was read. -/
  | begun
  /-- So many digits of a code point are still to come, after those that were read. -/
  | codePoint (left : Nat) (read : Nat)
  /-- Blanks were read after a backslash, so its line must end. -/
  | lineEnding
  /-- The line has ended, and blanks and line ends are skipped. -/
  | joining
  deriving DecidableEq, Repr

/-- Read a character within an escape of one line: the next stand, and the character that the
escape denotes if it is complete. -/
def Escape.step : Escape → Char → Option (Escape × Option Char)
  | .begun, 'u' => some (.codePoint 4 0, none)
  | .begun, 'U' => some (.codePoint 8 0, none)
  | .begun, c => (shortEscape? c).map fun x => (.plain, some x)
  | .codePoint left read, c => do
    let code := 16 * read + (← hexValue? c)
    if left ≠ 1 then some (.codePoint (left - 1) code, none)
    else if code.isValidChar then some (.plain, some (Char.ofNat code))
    else none
  | _, _ => none

/-! ### Texts -/

/-- The text of a one-line string in quotation marks after its opening one, and what follows the
closing one.  The characters of `done` are in reverse order. -/
def quotedBody : Escape → List Char → List Char → Option (List Char × List Char)
  | _, _, [] => none
  | .plain, done, c :: rest =>
    if c = '"' then some (done.reverse, rest)
    else if c = '\\' then quotedBody .begun done rest
    else if isTextChar c then quotedBody .plain (c :: done) rest
    else none
  | state, done, c :: rest =>
    match state.step c with
    | some (state, some x) => quotedBody state (x :: done) rest
    | some (state, none) => quotedBody state done rest
    | none => none

/-- The number of marks at the front. -/
def countMarks (mark : Char) (cs : List Char) : Nat := (cs.takeWhile (· == mark)).length

/-- What closes a string of several lines at a mark: with three marks or more the string ends, and
those of the first five that are not the closing ones belong to it. -/
def closing? (mark : Char) (done cs : List Char) : Option (List Char × List Char) :=
  let marks := min (countMarks mark (cs.take 5)) 5
  if marks < 3 then none
  else some ((List.replicate (marks - 3) mark ++ done).reverse, cs.drop marks)

/-- The text of a string of several lines in quotation marks after its opening ones, and what
follows the closing ones.  The characters of `done` are in reverse order. -/
def quotedLines : Escape → List Char → List Char → Option (List Char × List Char)
  | _, _, [] => none
  | .begun, done, c :: rest =>
    if c = '\n' then quotedLines .joining done rest
    else if isBlank c then quotedLines .lineEnding done rest
    else
      match Escape.step .begun c with
      | some (state, some x) => quotedLines state (x :: done) rest
      | some (state, none) => quotedLines state done rest
      | none => none
  | .codePoint left read, done, c :: rest =>
    match Escape.step (.codePoint left read) c with
    | some (state, some x) => quotedLines state (x :: done) rest
    | some (state, none) => quotedLines state done rest
    | none => none
  | .lineEnding, done, c :: rest =>
    if c = '\n' then quotedLines .joining done rest
    else if isBlank c then quotedLines .lineEnding done rest
    else none
  | state, done, c :: rest =>
    if state = .joining ∧ (c = '\n' ∨ isBlank c) then quotedLines .joining done rest
    else if c = '"' then
      match closing? '"' done (c :: rest) with
      | some closed => some closed
      | none => quotedLines .plain (c :: done) rest
    else if c = '\\' then quotedLines .begun done rest
    else if c = '\n' ∨ isTextChar c then quotedLines .plain (c :: done) rest
    else none

/-- The text of a string of several lines in apostrophes after its opening ones, and what follows
the closing ones.  The characters of `done` are in reverse order. -/
def literalLines : List Char → List Char → Option (List Char × List Char)
  | _, [] => none
  | done, c :: rest =>
    if c = '\'' then
      match closing? '\'' done (c :: rest) with
      | some closed => some closed
      | none => literalLines (c :: done) rest
    else if c = '\n' ∨ isTextChar c then literalLines (c :: done) rest
    else none

/-- The text of a one-line string in apostrophes after its opening one, and what follows the
closing one. -/
def literalBody (cs : List Char) : Option (List Char × List Char) :=
  let inside (c : Char) : Bool := isTextChar c && c != '\''
  match cs.dropWhile inside with
  | '\'' :: rest => some (cs.takeWhile inside, rest)
  | _ => none

/-! ### Strings -/

/-- A string of one line. -/
def lineString : Reader String := fun cs =>
  let body :=
    match cs with
    | '"' :: rest => quotedBody .plain [] rest
    | '\'' :: rest => literalBody rest
    | _ => none
  body.map fun (text, rest) => (String.ofList text, rest)

/-- What follows opening marks, without the line end that may stand there. -/
def afterOpening : List Char → List Char
  | '\n' :: rest => rest
  | cs => cs

/-- A string. -/
def string : Reader String := fun cs =>
  let lines :=
    match cs with
    | '"' :: '"' :: '"' :: rest => some (quotedLines .plain [] (afterOpening rest))
    | '\'' :: '\'' :: '\'' :: rest => some (literalLines [] (afterOpening rest))
    | _ => none
  match lines with
  | some body => body.map fun (text, rest) => (String.ofList text, rest)
  | none => lineString cs

end NamedCells.Toml
