import NamedCells.Text.Blank
import NamedCells.Text.Quoted

/-!
# Cell names

A name is well formed if it is not empty, takes at most 255 bytes of UTF-8, holds no control
character and no angle bracket, and neither begins nor ends with a blank.  Angle brackets are kept
for references from one cell to another.

## Main definitions

* `NameFault` — what can be wrong with a name.
* `Name.fault? s` — the first thing that is wrong with `s`, if anything is.
-/

namespace NamedCells

/-- What can be wrong with a name. -/
inductive NameFault where
  /-- There are no characters. -/
  | empty
  /-- The name takes more bytes than the limit. -/
  | tooLong (length limit : Nat)
  /-- A blank stands at an end. -/
  | surroundingBlank
  /-- A control character stands in the name. -/
  | control (c : Char)
  /-- An angle bracket stands in the name. -/
  | reserved (c : Char)
  /-- The name was given as bytes that are no text. -/
  | notUtf8
  /-- No name was given. -/
  | missing
  deriving DecidableEq, Repr

/-- The fault in words. -/
def NameFault.message : NameFault → String
  | .empty => "name is empty"
  | .tooLong length limit => s!"name is {length} bytes long (max {limit})"
  | .surroundingBlank => "name has leading or trailing whitespace"
  | .control c => "name contains control character " ++ Text.quoteChar c
  | .reserved c => "name contains reserved character " ++ Text.quoteChar c
  | .notUtf8 => "name is not valid UTF-8"
  | .missing => "name is missing"

namespace Name

/-- The greatest number of bytes of a name. -/
def maxBytes : Nat := 255

/-- The general category of control characters: the first thirty-two code points and those from
DEL to the end of the second such block. -/
def isControl (c : Char) : Bool := c.toNat < 0x20 || (0x7f ≤ c.toNat && c.toNat < 0xa0)

/-- The characters kept for references. -/
def isReserved (c : Char) : Bool := c == '<' || c == '>'

/-- The characters that no name may hold. -/
def isForbidden (c : Char) : Bool := isReserved c || isControl c

/-- The fault of holding a forbidden character. -/
def forbiddenFault (c : Char) : NameFault := if isControl c then .control c else .reserved c

/-- The first fault of a name: emptiness, length, the leftmost forbidden character, blanks at an
end.  A name that begins with a tab has the third fault rather than the fourth. -/
def fault? (s : String) : Option NameFault :=
  if s = "" then some .empty
  else if maxBytes < s.utf8ByteSize then some (.tooLong s.utf8ByteSize maxBytes)
  else
    match s.toList.find? isForbidden with
    | some c => some (forbiddenFault c)
    | none => if Text.trim s.toList = s.toList then none else some .surroundingBlank

end Name

end NamedCells
