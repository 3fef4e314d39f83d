import NamedCells.Binary64.Reading
import NamedCells.Numeral
import NamedCells.Toml.Item
import NamedCells.Toml.Scan

/-!
# Bare values of a TOML document

Numbers, truth values, dates and times are written without marks.  Such a value is a run of
letters, digits and the marks `+`, `-`, `_`, `.` and `:`, and its form decides what it is.

## Main definitions

* `Toml.integer?`, `Toml.float?`, `Toml.isDatetime` — the three forms that digits can have.
* `Toml.scalar?` — the item that a bare value denotes.
-/

namespace NamedCells.Toml

/-! ### Numbers -/

/-- The digits of a run in which single underscores may stand between digits. -/
def digitsOf? (isDigit : Char → Bool) : List Char → Option (List Char)
  | [] => none
  | [c] => if isDigit c then some [c] else none
  | c :: '_' :: rest => if isDigit c then (digitsOf? isDigit rest).map (c :: ·) else none
  | c :: rest => if isDigit c then (digitsOf? isDigit rest).map (c :: ·) else none

/-- The digits of a decimal integer without a sign, which has no leading zero. -/
def wholeDigits? (cs : List Char) : Option (List Char) :=
  match digitsOf? Char.isDigit cs with
  | some ('0' :: _ :: _) => none
  | digits => digits

/-- The number with the given digits in some base. -/
def ofDigits (base : Nat) (digits : List Char) : Nat :=
  digits.foldl (fun n d => base * n + (hexValue? d).getD 0) 0

/-- The integers that can be written: those of sixty-four bits. -/
def inIntegerRange (n : Int) : Bool := -(Nat.pow 2 63 : Int) ≤ n && n < (Nat.pow 2 63 : Int)

/-- The integer that a bare value denotes in some base. -/
def anyInteger? (cs : List Char) : Option Int :=
  let based (base : Nat) (isDigit : Char → Bool) (cs : List Char) : Option Int :=
    (digitsOf? isDigit cs).map fun ds => (ofDigits base ds : Int)
  match cs with
  | '0' :: 'x' :: rest => based 16 (fun c => (hexValue? c).isSome) rest
  | '0' :: 'o' :: rest => based 8 (fun c => '0' ≤ c && c ≤ '7') rest
  | '0' :: 'b' :: rest => based 2 (fun c => c == '0' || c == '1') rest
  | cs =>
    let (negative, magnitude) := Binary64.takeSign cs
    (wholeDigits? magnitude).map fun ds =>
      if negative then -(ofDigits 10 ds : Int) else ofDigits 10 ds

/-- The integer that a bare value denotes, if it can be written. -/
def integer? (cs : List Char) : Option Int := (anyInteger? cs).filter inIntegerRange

/-- Whether a text is the exponent of a float after its letter. -/
def isExponent (cs : List Char) : Bool :=
  (digitsOf? Char.isDigit (Binary64.takeSign cs).2).isSome

/-- Whether a text is what may follow the whole digits of a float: a fraction, an exponent, or a
fraction and an exponent. -/
def isFloatTail (cs : List Char) : Bool :=
  let isMark (c : Char) : Bool := c == 'e' || c == 'E'
  match cs with
  | '.' :: rest =>
    let fraction := rest.takeWhile (!isMark ·)
    let exponent := rest.dropWhile (!isMark ·)
    (digitsOf? Char.isDigit fraction).isSome &&
      (exponent.isEmpty || isExponent (exponent.drop 1))
  | c :: rest => isMark c && isExponent rest
  | [] => false

/-- Whether a bare value has the form of a float with digits. -/
def isDigitFloat (cs : List Char) : Bool :=
  let magnitude := (Binary64.takeSign cs).2
  let isWhole (c : Char) : Bool := c.isDigit || c == '_'
  (wholeDigits? (magnitude.takeWhile isWhole)).isSome && isFloatTail (magnitude.dropWhile isWhole)

/-- The float that a bare value denotes.  Digits must not lead to the positive infinity, which has
a word of its own. -/
def float? (cs : List Char) : Option Binary64 :=
  let (negative, magnitude) := Binary64.takeSign cs
  if magnitude = "inf".toList then some (.infinity negative)
  else if magnitude = "nan".toList then some (.nan negative)
  else if isDigitFloat cs then
    (Binary64.ofChars? (cs.filter (· ≠ '_'))).filter (· ≠ .infinity false)
  else none

/-! ### Dates and times -/

/-- The number that exactly `count` digits at the front denote, and what follows them. -/
def takeDigits? (count : Nat) (cs : List Char) : Option (Nat × List Char) :=
  let digits := cs.take count
  if digits.length = count ∧ digits.all Char.isDigit then some (ofDigits 10 digits, cs.drop count)
  else none

/-- What follows the character `c` at the front. -/
def after? (c : Char) : List Char → Option (List Char)
  | d :: rest => if d = c then some rest else none
  | [] => none

/-- How many days a month has. -/
def daysIn (year month : Nat) : Nat :=
  if month = 2 then
    if year % 4 = 0 ∧ (year % 100 ≠ 0 ∨ year % 400 = 0) then 29 else 28
  else if month = 4 ∨ month = 6 ∨ month = 9 ∨ month = 11 then 30
  else 31

/-- What follows a date at the front. -/
def afterDate? (cs : List Char) : Option (List Char) := do
  let (year, cs) ← takeDigits? 4 cs
  let cs ← after? '-' cs
  let (month, cs) ← takeDigits? 2 cs
  let cs ← after? '-' cs
  let (day, cs) ← takeDigits? 2 cs
  if 1 ≤ month ∧ month ≤ 12 ∧ 1 ≤ day ∧ day ≤ daysIn year month then some cs else none

/-- What follows an hour and a minute at the front. -/
def afterMinutes? (cs : List Char) : Option (List Char) := do
  let (hour, cs) ← takeDigits? 2 cs
  let cs ← after? ':' cs
  let (minute, cs) ← takeDigits? 2 cs
  if hour ≤ 23 ∧ minute ≤ 59 then some cs else none

/-- What follows a time at the front.  A minute may have a leap second, and a second may have a
fraction. -/
def afterTime? (cs : List Char) : Option (List Char) := do
  let cs ← afterMinutes? cs
  let cs ← after? ':' cs
  let (second, cs) ← takeDigits? 2 cs
  if 60 < second then none
  else
    match cs with
    | '.' :: rest =>
      if (rest.takeWhile Char.isDigit).isEmpty then none else some (rest.dropWhile Char.isDigit)
    | _ => some cs

/-- Whether a text is nothing or an offset from universal time. -/
def isOffset : List Char → Bool
  | [] => true
  | ['Z'] => true
  | ['z'] => true
  | c :: rest => (c == '+' || c == '-') && afterMinutes? rest == some []

/-- Whether a bare value is a date, a time of day, or a date with a time and perhaps an offset. -/
def isDatetime (cs : List Char) : Bool :=
  match afterDate? cs with
  | some [] => true
  | some (c :: rest) =>
    (c == 'T' || c == 't' || c == ' ') && ((afterTime? rest).map isOffset).getD false
  | none => afterTime? cs == some []

/-! ### Bare values -/

/-- The characters of bare values. -/
def isScalarChar (c : Char) : Bool :=
  c.isAlphanum || c == '+' || c == '-' || c == '_' || c == '.' || c == ':'

/-- The item that a bare value denotes. -/
def scalar? (cs : List Char) : Option Item :=
  if cs = "true".toList then some (.boolean true)
  else if cs = "false".toList then some (.boolean false)
  else if isDatetime cs then some .datetime
  else
    match float? cs with
    | some x => some (.float x)
    | none => (integer? cs).map .integer

end NamedCells.Toml
