/-!
# Patterns

A pattern is a regular expression.  The library does not match texts against patterns; it only says
whether a pattern is one that could be matched by a finite automaton.  A pattern therefore keeps no
more of what was written than this depends on: that there is an anchor, but not which one.

## Main definitions

* `Pattern.Atom` — what stands for a single character or a place between characters.
* `Pattern.CharSet` — what stands in brackets for any one of several characters.
* `Pattern` — patterns, with `Pattern.height`, how deep their parts are nested.
-/

namespace NamedCells

namespace Pattern

/-- What a letter in the opening of a group sets or unsets. -/
inductive Flag where
  /-- Letters of both cases are the same. -/
  | ignoreCase
  /-- Line ends count as ends of the text. -/
  | multiLine
  /-- A dot stands for line ends too. -/
  | dotMatchesLineEnd
  /-- Repetitions are as short as possible unless they say otherwise. -/
  | lazy
  /-- Characters are those of all scripts, rather than bytes. -/
  | unicode
  /-- A carriage return belongs to a line end. -/
  | crlf
  /-- Blanks and comments between the parts of the pattern do not count. -/
  | verbose
  deriving DecidableEq, Repr

/-- The flags that are set, with `true`, and unset, with `false`. -/
abbrev Flags := List (Flag × Bool)

/-- Whether a flag is set after changes, if it was or was not before. -/
def Flags.apply (changes : Flags) (flag : Flag) (before : Bool) : Bool :=
  (changes.lookup flag).getD before

/-- A character that stands for itself. -/
structure Literal where
  /-- The character. -/
  char : Char
  /-- Whether it was written by two hexadecimal digits, which may denote a byte. -/
  isByte : Bool
  deriving DecidableEq, Repr

/-- What stands for a single character or a place between characters. -/
inductive Atom where
  /-- A character that stands for itself. -/
  | literal (l : Literal)
  /-- Any character. -/
  | dot
  /-- The beginning or the end of a line or of the text. -/
  | anchor
  /-- A place where a word begins or ends, or where none does. -/
  | wordBoundary
  /-- The digits, the blanks or the characters of words, or all others. -/
  | shorthand (negated : Bool)
  /-- The characters of a general category, or all others. -/
  | property
  deriving DecidableEq, Repr

/-- What stands in brackets. -/
inductive CharSet where
  /-- No character. -/
  | empty
  /-- A character. -/
  | literal (l : Literal)
  /-- The characters from one to another. -/
  | range (first last : Literal)
  /-- An ASCII class by its name, or all other characters. -/
  | ascii (negated : Bool)
  /-- The digits, the blanks or the characters of words, or all others. -/
  | shorthand (negated : Bool)
  /-- The characters of a general category, or all others. -/
  | property
  /-- A set in brackets of its own, or all other characters. -/
  | bracketed (negated : Bool) (content : CharSet)
  /-- The characters of all members. -/
  | union (members : List CharSet)
  /-- The intersection or a difference of two sets. -/
  | operation (left right : CharSet)
  deriving Repr

end Pattern

/-- A regular expression. -/
inductive Pattern where
  /-- The empty text. -/
  | empty
  /-- Changes of flags up to the end of the group. -/
  | flags (changes : Pattern.Flags)
  /-- A single character or a place between characters. -/
  | atom (a : Pattern.Atom)
  /-- A set in brackets. -/
  | set (s : Pattern.CharSet)
  /-- A pattern that may stand any number of times, or not at all. -/
  | repetition (p : Pattern)
  /-- A pattern in parentheses, for which flags are changed. -/
  | group (changes : Pattern.Flags) (content : Pattern)
  /-- Any of several patterns. -/
  | alternation (branches : List Pattern)
  /-- Several patterns one after the other. -/
  | concat (parts : List Pattern)
  deriving Repr

namespace Pattern

/-- The union of sets, which is not written as one if there is only one set, or none. -/
def CharSet.ofMembers : List CharSet → CharSet
  | [] => .empty
  | [s] => s
  | members => .union members

/-- Patterns one after the other; no pattern is the empty text. -/
def ofParts : List Pattern → Pattern
  | [] => .empty
  | [p] => p
  | parts => .concat parts

/-- Any of several patterns, which is no choice if there is only one. -/
def ofBranches : List Pattern → Pattern
  | [p] => p
  | branches => .alternation branches

/-! ### Nesting -/

mutual

/-- How deep the parts of a set are nested. -/
def CharSet.height : CharSet → Nat
  | .bracketed _ content => content.height + 1
  | .union members => heightOfMembers members + 1
  | .operation left right => max left.height right.height + 1
  | _ => 0

/-- How deep the parts of the deepest of several sets are nested. -/
def heightOfMembers : List CharSet → Nat
  | [] => 0
  | s :: members => max s.height (heightOfMembers members)

end

mutual

/-- How deep the parts of a pattern are nested.  A set in brackets is a part like any other. -/
def height : Pattern → Nat
  | .set s => s.height
  | .repetition p => p.height + 1
  | .group _ content => content.height + 1
  | .alternation branches => heightOfParts branches + 1
  | .concat parts => heightOfParts parts + 1
  | _ => 0

/-- How deep the parts of the deepest of several patterns are nested. -/
def heightOfParts : List Pattern → Nat
  | [] => 0
  | p :: parts => max p.height (heightOfParts parts)

end

end Pattern

end NamedCells
