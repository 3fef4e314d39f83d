import NamedCells.Pattern.Atom

/-!
# Reading the sets of a pattern

A set stands in brackets and holds characters, ranges of them, classes and further sets, between
which two ampersands, hyphens or tildes are operations.  A caret just after the opening bracket
negates the set.  Hyphens at the beginning, and a closing bracket there, are members; so no set can
be written empty.

## Main definitions

* `Pattern.asciiClass?` — an ASCII class by its name.
* `Pattern.charSet` — a set in brackets.
-/

namespace NamedCells.Pattern

/-- The names of the ASCII classes. -/
def asciiClassNames : List String :=
  ["alnum", "alpha", "ascii", "blank", "cntrl", "digit", "graph", "lower", "print", "punct",
    "space", "upper", "word", "xdigit"]

/-- Whether the class at the front is negated, and what follows it.  A class stands between
brackets and colons; what looks like one but has another name is a set. -/
def asciiClass? : List Char → Option (Bool × List Char)
  | '[' :: ':' :: cs =>
    let (negated, cs) := match cs with
      | '^' :: rest => (true, rest)
      | rest => (false, rest)
    match cs.dropWhile (· ≠ ':') with
    | ':' :: ']' :: rest =>
      if asciiClassNames.contains (String.ofList (cs.takeWhile (· ≠ ':'))) then some (negated, rest)
      else none
    | _ => none
  | _ => none

/-- A character or a class within a set. -/
def memberAtom : Reader Atom := do
  match ← next with
  | '\\' => escape
  | c => return .literal ⟨c, false⟩

/-- An atom as a set; places between characters are none. -/
def CharSet.ofAtom? : Atom → Option CharSet
  | .literal l => some (.literal l)
  | .shorthand negated => some (.shorthand negated)
  | .property => some .property
  | _ => none

/-- The range from an atom to another; both must be characters, in ascending order. -/
def CharSet.rangeOf? : Atom → Atom → Option CharSet
  | .literal first, .literal last =>
    if first.char ≤ last.char then some (.range first last) else none
  | _, _ => none

/-- A result, or a failure if there is none. -/
def orFail {α : Type} : Option α → Reader α
  | some a => pure a
  | none => failure

/-- The character after the next one.  In a verbose pattern blanks and one number sign between the
two do not count, unless nothing follows them. -/
def Cursor.second? (s : Cursor) : Option Char :=
  let rest := s.rest.drop 1
  if s.verbose then
    let visible := match rest.dropWhile Text.isBlank with
      | '#' :: comment => comment.dropWhile Text.isBlank
      | visible => visible
    visible.head?.or rest.head?
  else rest.head?

/-- A member of a set, or a range.  A hyphen makes a range unless the set, or an operation, follows
it. -/
def member : Reader CharSet := do
  let first ← memberAtom
  skipBlanks
  let s ← get
  if s.rest.head? = some '-' ∧ s.second? ≠ some ']' ∧ s.second? ≠ some '-' then
    let _ ← next
    skipBlanks
    let last ← memberAtom
    orFail (CharSet.rangeOf? first last)
  else orFail (CharSet.ofAtom? first)

/-- Hyphens at the beginning of a set, between which a verbose pattern may have blanks.  The first
argument bounds their number. -/
def hyphens : Nat → List CharSet → Reader (List CharSet)
  | 0, _ => failure
  | steps + 1, done => do
    if (← peek?) = some '-' then
      let _ ← next
      skipBlanks
      hyphens steps (.literal ⟨'-', false⟩ :: done)
    else return done

/-- What stands at the beginning of a set after its bracket: whether it is negated, and its first
members, the latest first. -/
def setOpening (steps : Nat) : Reader (Bool × List CharSet) := do
  skipBlanks
  let negated := (← peek?) = some '^'
  if negated then
    let _ ← next
    skipBlanks
  let members ← hyphens steps []
  if members.isEmpty ∧ (← peek?) = some ']' then
    let _ ← next
    skipBlanks
    return (negated, [.literal ⟨']', false⟩])
  else return (negated, members)

/-- The members of a set as the operand of an operation that follows what is before it. -/
def closeOperand (before : Option CharSet) (members : List CharSet) : CharSet :=
  let operand := CharSet.ofMembers members.reverse
  match before with
  | some left => .operation left operand
  | none => operand

/-- The rest of a set: `before` is the left side of an operation, and `members`, the latest first,
are the members after it.  The first argument bounds the number of members by that of characters. -/
def setRest : Nat → Option CharSet → List CharSet → Reader CharSet
  | 0, _, _ => failure
  | steps + 1, before, members => do
    skipBlanks
    match (← get).rest with
    | [] => failure
    | ']' :: rest => do
      goOn rest
      return closeOperand before members
    | '&' :: '&' :: rest => do
      goOn rest
      setRest steps (some (closeOperand before members)) []
    | '-' :: '-' :: rest => do
      goOn rest
      setRest steps (some (closeOperand before members)) []
    | '~' :: '~' :: rest => do
      goOn rest
      setRest steps (some (closeOperand before members)) []
    | '[' :: rest => do
      match asciiClass? ('[' :: rest) with
      | some (negated, rest) =>
        goOn rest
        setRest steps before (.ascii negated :: members)
      | none =>
        goOn rest
        let (negated, first) ← setOpening steps
        let content ← setRest steps none first
        setRest steps before (.bracketed negated content :: members)
    | _ => do
      let m ← member
      setRest steps before (m :: members)

/-- A set after its opening bracket. -/
def charSet (steps : Nat) : Reader CharSet := do
  let (negated, first) ← setOpening steps
  return .bracketed negated (← setRest steps none first)

end NamedCells.Pattern
