import NamedCells.Pattern.CharSet
import NamedCells.Text.Alphanumeric

/-!
# Reading a pattern

A pattern is a choice of sequences between vertical bars.  The parts of a sequence are atoms, sets,
groups and changes of flags, and each part but the last kind may be repeated.  A group may have a
name, which no other group of the pattern may have, or may change flags; whether the pattern is
verbose in a group ends with the group.

## Main definitions

* `Pattern.flagsOf?`, `Pattern.nameOf?` — the two things that a group may open with.
* `Pattern.branches` — a choice of sequences.
* `Pattern.ofChars?` — the pattern that a text is.
-/

namespace NamedCells.Pattern

/-! ### Groups -/

/-- The flag of a letter. -/
def Flag.ofLetter? : Char → Option Flag
  | 'i' => some .ignoreCase
  | 'm' => some .multiLine
  | 's' => some .dotMatchesLineEnd
  | 'U' => some .lazy
  | 'u' => some .unicode
  | 'R' => some .crlf
  | 'x' => some .verbose
  | _ => none

/-- What changes of flags are for. -/
inductive Extent where
  /-- They are for a group of their own. -/
  | group
  /-- They are for what follows in the group around them. -/
  | rest
  deriving DecidableEq, Repr

/-- Changes of flags up to the character that ends them, after those in `done`, and what follows.
Letters set flags, and unset them after a hyphen.  No flag may occur twice, there may be only one
hyphen, and a letter must follow it. -/
def flagsOf? (done : Flags) (negated dangling : Bool) :
    List Char → Option (Flags × Extent × List Char)
  | [] => none
  | c :: rest =>
    if c = ':' then (if dangling then none else some (done, .group, rest))
    else if c = ')' then (if dangling then none else some (done, .rest, rest))
    else if c = '-' then (if negated then none else flagsOf? done true true rest)
    else
      match Flag.ofLetter? c with
      | some flag =>
        if (done.lookup flag).isSome then none
        else flagsOf? ((flag, !negated) :: done) negated false rest
      | none => none

/-- Whether the name of a group may begin with a character. -/
def mayBeginName (c : Char) : Bool := c == '_' || Text.isAlphabetic c

/-- Whether the name of a group may go on with a character. -/
def mayContinueName (c : Char) : Bool :=
  c == '_' || c == '.' || c == '[' || c == ']' || Text.isAlphanumeric c

/-- The name of a group up to its closing angle bracket, and what follows. -/
def nameOf? (cs : List Char) : Option (List Char × List Char) :=
  match cs.takeWhile (· ≠ '>'), cs.dropWhile (· ≠ '>') with
  | first :: others, _ :: rest =>
    if mayBeginName first && others.all mayContinueName then some (first :: others, rest) else none
  | _, _ => none

/-- What a parenthesis opens. -/
inductive Opening where
  /-- A group, for which flags are changed. -/
  | group (changes : Flags)
  /-- Nothing: flags are changed up to the end of the group around it. -/
  | flags (changes : Flags)
  deriving Repr

/-- A group with the name at the front of `cs`. -/
def namedGroup (cs : List Char) : Reader Opening := do
  let (name, rest) ← orFail (nameOf? cs)
  if (← get).names.contains name then failure
  modify fun s => { s with rest, names := name :: s.names }
  return .group []

/-- What follows an opening parenthesis up to the content of the group.  At least one flag must be
changed if there is no group. -/
def groupOpening : Reader Opening := do
  skipBlanks
  match (← get).rest with
  | '?' :: 'P' :: '<' :: rest => namedGroup rest
  | '?' :: '<' :: rest => namedGroup rest
  | '?' :: rest =>
    let (changes, extent, rest) ← orFail (flagsOf? [] false false rest)
    goOn rest
    match extent with
    | .group => return .group changes
    | .rest => if changes.isEmpty then failure else return .flags changes
  | _ => return .group []

/-! ### Sequences -/

/-- Whether a part of a pattern may be repeated. -/
def isRepeatable : Pattern → Bool
  | .flags _ => false
  | _ => true

/-- Say whether the pattern is verbose from here on. -/
def setVerbose (verbose : Bool) : Reader Unit := modify fun s => { s with verbose }

/-- A choice of sequences up to a closing parenthesis or the end, after the sequences in `done` and
the parts of the next one in `parts`, both with the latest first.  The first argument bounds the
number of parts by that of characters.  An opening brace stands for nothing by itself. -/
def branchesFrom : Nat → List Pattern → List Pattern → Reader Pattern
  | 0, _, _ => failure
  | steps + 1, done, parts => do
    skipBlanks
    match ← peek? with
    | none | some ')' => return ofBranches (ofParts parts.reverse :: done).reverse
    | some '\x7b' => failure
    | some c => do
      let _ ← next
      match c with
      | '|' => branchesFrom steps (ofParts parts.reverse :: done) []
      | '(' => do
        let outer := (← get).verbose
        match ← groupOpening with
        | .flags changes =>
          setVerbose (changes.apply .verbose outer)
          branchesFrom steps done (.flags changes :: parts)
        | .group changes =>
          setVerbose (changes.apply .verbose outer)
          let content ← branchesFrom steps [] []
          setVerbose outer
          if (← next) ≠ ')' then failure
          branchesFrom steps done (.group changes content :: parts)
      | '[' => do
        let s ← charSet steps
        branchesFrom steps done (.set s :: parts)
      | '?' | '*' | '+' =>
        match parts with
        | p :: before => do
          if !isRepeatable p then failure
          if (← peek?) = some '?' then
            let _ ← next
          branchesFrom steps done (.repetition p :: before)
        | [] => failure
      | '\\' => do
        let a ← escape
        branchesFrom steps done (.atom a :: parts)
      | '.' => branchesFrom steps done (.atom .dot :: parts)
      | '^' | '$' => branchesFrom steps done (.atom .anchor :: parts)
      | c => branchesFrom steps done (.atom (.literal ⟨c, false⟩) :: parts)

/-- The pattern that a text is, unless it is none. -/
def ofChars? (cs : List Char) : Option Pattern := do
  let (p, s) ← branchesFrom (cs.length + 1) [] [] ⟨cs, false, []⟩
  if s.rest.isEmpty then some p else none

end NamedCells.Pattern
