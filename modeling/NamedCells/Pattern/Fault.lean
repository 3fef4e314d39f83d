import NamedCells.Pattern.Reading

/-!
# Faults of patterns

A pattern that can be read may still have no automaton.  If the characters are bytes rather than
those of all scripts, it must not be able to match a part of the encoding of a character: there may
be no byte beyond ASCII, no dot and no negated set.  And no automaton can tell the boundaries of
words of all scripts, while it can tell those of ASCII words.

## Main definitions

* `Pattern.Fault` — why a text is no pattern that can be matched.
* `Pattern.Survey`, `Pattern.survey` — what is found when the parts of a pattern are gone through.
* `Pattern.fault?` — the fault of a text as a pattern.
-/

namespace NamedCells.Pattern

/-- Why a text is no pattern that can be matched by an automaton. -/
inductive Fault where
  /-- It is no pattern, or one without a meaning. -/
  | malformed
  /-- It has a boundary between words of all scripts. -/
  | wordBoundary
  deriving DecidableEq, Repr

/-- The fault in words. -/
def Fault.message : Fault → String
  | .malformed => "error building NFA"
  | .wordBoundary =>
    "unsupported regex feature for DFAs: cannot build DFAs for regexes with Unicode word " ++
      "boundaries; switch to ASCII word boundaries, or heuristically enable Unicode word " ++
      "boundaries or use a different regex engine"

/-- How deep the parts of a pattern may be nested. -/
def depthLimit : Nat := 250

/-- Whether a character is one of ASCII. -/
def Literal.isAscii (l : Literal) : Bool := l.char.toNat < 0x80

/-- Whether an atom has a meaning, where `unicode` says that characters are those of all scripts.
Otherwise only a character written as a byte must be one of ASCII. -/
def Atom.hasMeaning (unicode : Bool) : Atom → Bool
  | .literal l => unicode || l.isAscii || !l.isByte
  | .dot => unicode
  | .anchor => true
  | .wordBoundary => true
  | .shorthand negated => unicode || !negated
  | .property => unicode

mutual

/-- Whether a set has a meaning, where `unicode` says that characters are those of all scripts.
Otherwise all of its characters must be those of ASCII. -/
def CharSet.hasMeaning (unicode : Bool) : CharSet → Bool
  | .empty => true
  | .literal l => unicode || l.isAscii
  | .range first last => unicode || (first.isAscii && last.isAscii)
  | .ascii negated => unicode || !negated
  | .shorthand negated => unicode || !negated
  | .property => unicode
  | .bracketed negated content => (unicode || !negated) && content.hasMeaning unicode
  | .union members => haveMeaning unicode members
  | .operation left right => left.hasMeaning unicode && right.hasMeaning unicode

/-- Whether all of several sets have a meaning. -/
def haveMeaning (unicode : Bool) : List CharSet → Bool
  | [] => true
  | s :: members => s.hasMeaning unicode && haveMeaning unicode members

end

/-- What is found when the parts of a pattern are gone through from the left. -/
structure Survey where
  /-- Whether characters are those of all scripts in the parts that follow. -/
  unicode : Bool
  /-- Whether there was a boundary between words of all scripts. -/
  hasWordBoundary : Bool
  deriving DecidableEq, Repr

mutual

/-- Go through a pattern, unless a part of it has no meaning.  The flags that a group changes are
as before after it. -/
def survey (s : Survey) : Pattern → Option Survey
  | .empty => some s
  | .flags changes => some { s with unicode := changes.apply .unicode s.unicode }
  | .atom a =>
    if a.hasMeaning s.unicode then
      some { s with hasWordBoundary := s.hasWordBoundary || (a == .wordBoundary && s.unicode) }
    else none
  | .set members => if members.hasMeaning s.unicode then some s else none
  | .repetition p => survey s p
  | .group changes content =>
    (survey { s with unicode := changes.apply .unicode s.unicode } content).map fun inner =>
      { s with hasWordBoundary := inner.hasWordBoundary }
  | .alternation branches => surveyAll s branches
  | .concat parts => surveyAll s parts

/-- Go through patterns one after the other. -/
def surveyAll (s : Survey) : List Pattern → Option Survey
  | [] => some s
  | p :: parts => (survey s p).bind fun s => surveyAll s parts

end

/-- The fault of a text as a pattern, if it has one. -/
def fault? (cs : List Char) : Option Fault :=
  match (ofChars? cs).filter (·.height ≤ depthLimit) with
  | none => some .malformed
  | some p =>
    match survey ⟨true, false⟩ p with
    | none => some .malformed
    | some s => if s.hasWordBoundary then some .wordBoundary else none

end NamedCells.Pattern
