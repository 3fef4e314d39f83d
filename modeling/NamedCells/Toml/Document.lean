import NamedCells.Toml.Scalar
import NamedCells.Toml.Text

/-!
# TOML documents

A document is a sequence of lines: a key with its value, the header of a table, the header of the
next element of an array of tables, or nothing.  Keys go to the table whose header was read last.
That table is kept apart until the next header, and is then put into its place.

## Main definitions

* `Toml.value` — a value, which may hold others.
* `Toml.Draft` — a document of which some lines are read.
* `Toml.parse?` — the table that a text denotes, unless the text is no TOML.
-/

namespace NamedCells.Toml

/-! ### Keys -/

/-- The number of keys that dots may join is below this, and so is the number of brackets that may
be open at once. -/
def depthLimit : Nat := 80

/-- The characters of keys without marks. -/
def isKeyChar (c : Char) : Bool := c.isAlphanum || c == '_' || c == '-'

/-- A key between two dots. -/
def simpleKey : Reader String := do
  skipBlanks
  let key ← match ← peek? with
    | some '"' | some '\'' => lineString
    | _ => do
      let cs ← takeWhile isKeyChar
      if cs.isEmpty then failure else pure (String.ofList cs)
  skipBlanks
  return key

/-- Keys joined by dots, as those before the last dot, and the last one.  The first argument bounds
their number. -/
def dottedKey : Nat → List String → Reader (List String × String)
  | 0, _ => failure
  | room + 1, path => do
    let key ← simpleKey
    if ← takeIf '.' then dottedKey room (key :: path) else return (path.reverse, key)

/-- Keys joined by dots. -/
def key : Reader (List String × String) := dottedKey (depthLimit - 1) []

/-! ### Values -/

/-- A value without marks.  A date may be followed by a blank and a time. -/
def scalar : Reader Item := do
  let cs ← takeWhile isScalarChar
  let cs ← fun rest =>
    match rest with
    | ' ' :: d :: _ =>
      if (afterDate? cs == some []) && d.isDigit then
        let time := rest.tail.takeWhile isScalarChar
        some (cs ++ ' ' :: time, rest.tail.dropWhile isScalarChar)
      else some (cs, rest)
    | _ => some (cs, rest)
  orFail (scalar? cs)

/-- The items of an array after its opening bracket or a comma.  The first argument bounds the
number of items by the number of characters. -/
def arrayItems (item : Reader Item) : Nat → List Item → Reader Item
  | 0, _ => failure
  | steps + 1, done => do
    skipLines
    if ← takeIf ']' then return .array done.reverse
    let x ← item
    skipLines
    if ← takeIf ',' then arrayItems item steps (x :: done)
    else
      expect ']'
      return .array (x :: done).reverse

/-- The keys of a table in braces after its opening brace or a comma.  The first argument bounds
the number of keys by the number of characters. -/
def inlineEntries (item : Reader Item) : Nat → Table → Reader Item
  | 0, _ => failure
  | steps + 1, t => do
    let (path, last) ← key
    expect '='
    skipBlanks
    let x ← item
    skipBlanks
    let t ← orFail (t.insertAt path last x)
    if ← takeIf ',' then inlineEntries item steps t
    else
      expect '}'
      return t.toItem

/-- The rest of a table in braces after its opening brace. -/
def inlineTable (item : Reader Item) (steps : Nat) : Reader Item := do
  skipBlanks
  if ← takeIf '}' then return .table .inline []
  inlineEntries item steps ⟨.inline, []⟩

/-- A value.  The first argument bounds the number of items and keys in brackets by the number of
characters, the second is how many brackets may still be opened. -/
def value (steps : Nat) : Nat → Reader Item
  | 0 => do
    match ← peek? with
    | some '"' | some '\'' => Item.string <$> string
    | _ => scalar
  | depth + 1 => do
    match ← peek? with
    | some '"' | some '\'' => Item.string <$> string
    | some '[' => do
      expect '['
      arrayItems (value steps depth) steps []
    | some '{' => do
      expect '{'
      inlineTable (value steps depth) steps
    | _ => scalar

/-! ### Lines -/

/-- A document of which some lines are read. -/
structure Draft where
  /-- The tables that are finished, as the table that holds them. -/
  document : Table
  /-- The table that keys go to. -/
  current : Table
  /-- The header of that table: the keys before the last dot, and the last one.  The document
  itself has none. -/
  header : Option (List String × String)
  /-- Whether the table is an element of an array of tables. -/
  isElement : Bool

namespace Draft

/-- The draft of a document of which nothing is read. -/
def empty : Draft := ⟨⟨.headed, []⟩, ⟨.headed, []⟩, none, false⟩

/-- The document with the table that keys went to in its place. -/
def finish (d : Draft) : Option Table :=
  match d.header with
  | none => some d.current
  | some (path, key) =>
    let placed := d.document.modifyAt false (fun parent =>
      match parent.find? key, d.isElement with
      | some (.tables elements), true =>
        some ((), parent.replace key (.tables (elements ++ [d.current.entries])))
      | none, false => some ((), parent.add key d.current.toItem)
      | _, _ => none) path
    placed.map Prod.snd

/-- Read the header of a table.  The table may exist already if it is implied by the headers of
tables below it; it then keeps what it has. -/
def openTable (d : Draft) (path : List String) (key : String) : Option Draft := do
  let document ← d.finish
  let (entries, document) ← document.modifyAt false (fun parent =>
    match parent.find? key with
    | none => some ([], parent)
    | some (.table .implied entries) => some (entries, parent.erase key)
    | some _ => none) path
  some ⟨document, ⟨.headed, entries⟩, some (path, key), false⟩

/-- Read the header of an element of an array of tables. -/
def openElement (d : Draft) (path : List String) (key : String) : Option Draft := do
  let document ← d.finish
  let (_, document) ← document.modifyAt false (fun parent =>
    match parent.find? key with
    | none => some ((), parent.add key (.tables []))
    | some (.tables _) => some ((), parent)
    | some _ => none) path
  some ⟨document, ⟨.headed, []⟩, some (path, key), true⟩

end Draft

/-- Read the rest of a header after its first bracket. -/
def headerLine (d : Draft) : Reader Draft := do
  let isElement ← takeIf '['
  let (path, last) ← key
  expect ']'
  if isElement then expect ']'
  lineEnd
  orFail (if isElement then d.openElement path last else d.openTable path last)

/-- Read a key with its value, with a bound as for a value. -/
def keyLine (steps : Nat) (d : Draft) : Reader Draft := do
  let (path, last) ← key
  expect '='
  skipBlanks
  let item ← value steps (depthLimit - 1)
  lineEnd
  let current ← orFail (d.current.insertAt path last item)
  return { d with current }

/-- Read the lines of a document.  The first argument bounds their number: it is greater than the
number of characters that are left, because every line takes one. -/
def lines : Nat → Draft → Reader Draft
  | 0, _ => failure
  | steps + 1, d => do
    skipBlanks
    match ← peek? with
    | none => return d
    | some '\n' | some '#' => do
      lineEnd
      lines steps d
    | some '[' => do
      expect '['
      let d ← headerLine d
      lines steps d
    | some _ => do
      let d ← keyLine (steps + 1) d
      lines steps d

/-- A text without the mark of its encoding that may stand in front. -/
def withoutByteOrderMark : List Char → List Char
  | '\ufeff' :: rest => rest
  | cs => cs

/-- The keys with their items that a text denotes, unless the text is no TOML. -/
def parse? (text : String) : Option Entries := do
  let cs := withLineFeeds (withoutByteOrderMark text.toList)
  let (draft, _) ← lines (cs.length + 1) .empty cs
  let table ← draft.finish
  some table.entries

end NamedCells.Toml
