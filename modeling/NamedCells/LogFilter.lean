import NamedCells.Binary64.Reading
import NamedCells.Pattern.Fault

/-!
# Filters of the log

A filter of the log is a list of directives between commas, and a directive says from which level
on a source is logged: a level alone, a source alone, or a source, a span in brackets with a field
in braces, and a level after an equals sign.  The field may have a value: a truth value, a number,
or else a pattern.  The library does not log; it checks filters, because a filter that is not well
formed is reported and not used.

## Main definitions

* `LogFilter.isLevel` — the names and numbers of levels.
* `LogFilter.fieldFault?` — the fault of a field.
* `LogFilter.fault?` — the first fault of a filter.
-/

namespace NamedCells.LogFilter

/-- What can be wrong with a filter. -/
inductive Fault where
  /-- A directive does not have the form of one. -/
  | malformed
  /-- What stands in the place of a level is none. -/
  | badLevel
  /-- The value of a field is a pattern that cannot be matched. -/
  | badField (fault : Pattern.Fault)
  deriving DecidableEq, Repr

/-- The fault in words. -/
def Fault.message : Fault → String
  | .malformed => "invalid filter directive"
  | .badLevel =>
    "error parsing level filter: expected one of \"off\", \"error\", \"warn\", \"info\", " ++
      "\"debug\", \"trace\", or a number 0-5"
  | .badField fault => "invalid field filter: " ++ fault.message

/-! ### Levels and fields -/

/-- The names of the levels, from the one that logs nothing to the one that logs everything. -/
def levelNames : List String := ["off", "error", "warn", "info", "debug", "trace"]

/-- Whether a text is the number of a level, with any leading zeros and perhaps a plus sign. -/
def isLevelNumber (cs : List Char) : Bool :=
  let digits := match cs with
    | '+' :: rest => rest
    | cs => cs
  !digits.isEmpty && digits.all Char.isDigit && Nat.ofDigitChars 10 digits 0 < levelNames.length

/-- Whether a text is the number or, in any mixture of cases, the name of a level. -/
def isLevel (cs : List Char) : Bool :=
  isLevelNumber cs || levelNames.contains (String.ofList (cs.map Char.toLower))

/-- The value of a field: what stands between its first equals sign and the next one. -/
def fieldValue? (field : List Char) : Option (List Char) :=
  match field.dropWhile (· ≠ '=') with
  | _ :: rest => some (rest.takeWhile (· ≠ '='))
  | [] => none

/-- Whether the value of a field is a truth value or a number, and therefore no pattern. -/
def isPlainValue (value : List Char) : Bool :=
  value == "true".toList || value == "false".toList || (Binary64.ofChars? value).isSome

/-- The fault of a field, if it has one. -/
def fieldFault? (field : List Char) : Option Fault := do
  let value ← fieldValue? field
  if isPlainValue value then none
  else (Pattern.fault? value).map .badField

/-! ### Directives -/

/-- A text without its first characters, as many as take so many bytes. -/
def dropBytes : Nat → List Char → List Char
  | 0, cs => cs
  | _, [] => []
  | n, c :: cs => dropBytes (n - c.utf8Size) cs

/-- The first characters of a text, as many as take so many bytes. -/
def takeBytes : Nat → List Char → List Char
  | 0, _ => []
  | _, [] => []
  | n, c :: cs => c :: takeBytes (n - c.utf8Size) cs

/-- Where the reading of a directive stands. -/
inductive State where
  /-- Before its first character. -/
  | start
  /-- In a level or a source. -/
  | levelOrSource
  /-- In the name of a span. -/
  | span
  /-- In a field that begins after so many bytes. -/
  | field (before : Nat)
  /-- After the field of a span. -/
  | fields
  /-- After a source and a span. -/
  | source
  /-- In a level that begins after so many bytes. -/
  | level (before : Nat)
  deriving DecidableEq, Repr

/-- A character with which a level or a source may begin. -/
def mayBegin (c : Char) : Bool := c == '-' || c == ':' || c == '_' || Text.isAlphanumeric c

/-- Read the end of a field that goes from one number of bytes to another: there must be a field,
and without a fault. -/
def closeField (directive : List Char) (first last : Nat) : Except Fault State :=
  if first = last then .error .malformed
  else
    match fieldFault? (takeBytes (last - first) (dropBytes first directive)) with
    | some fault => .error fault
    | none => .ok .fields

/-- Read a character of a directive that begins after `offset` bytes. -/
def State.step (directive : List Char) (offset : Nat) : State → Char → Except Fault State
  | .start, c =>
    if c = '[' then .ok .span
    else if mayBegin c then .ok .levelOrSource
    else .error .malformed
  | .levelOrSource, c =>
    if c = '=' then .ok (.level (offset + 1))
    else if c = '[' then .ok .span
    else .ok .levelOrSource
  | .span, c =>
    if c = ']' then .ok .source
    else if c = '\x7b' then .ok (.field (offset + 1))
    else .ok .span
  | .field before, c =>
    if c = '\x7d' then closeField directive before offset else .ok (.field before)
  | .fields, c => if c = ']' then .ok .source else .error .malformed
  | .source, c => if c = '=' then .ok (.level (offset + 1)) else .error .malformed
  | .level before, _ => .ok (.level before)

/-- Read characters of a directive that begin after so many bytes. -/
def readFrom (directive : List Char) : Nat → State → List Char → Except Fault State
  | _, state, [] => .ok state
  | offset, state, c :: cs => do
    let state ← state.step directive offset c
    readFrom directive (offset + c.utf8Size) state cs

/-- The fault of the end of a directive where its reading stands. -/
def endFault? (directive : List Char) : State → Option Fault
  | .levelOrSource => none
  | .source => none
  | .level before =>
    let level := dropBytes before directive
    if level.isEmpty || isLevel level then none else some .badLevel
  | _ => some .malformed

/-- The fault of a directive.  Blanks around it do not belong to its form; but its field and its
level are cut out of the directive as it was written, by the numbers of bytes before them in its
form, and the level goes to the end of it. -/
def directiveFault? (directive : List Char) : Option Fault :=
  match readFrom directive 0 .start (Text.trim directive) with
  | .ok state => endFault? directive state
  | .error fault => some fault

/-- The directives of a filter. -/
def directives (filter : String) : List (List Char) :=
  ((filter.splitOn ",").map String.toList).filter fun directive => !directive.isEmpty

/-- The first fault of a filter. -/
def fault? (filter : String) : Option Fault := (directives filter).findSome? directiveFault?

end NamedCells.LogFilter
