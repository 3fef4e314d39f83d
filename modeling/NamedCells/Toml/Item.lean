import NamedCells.Binary64

/-!
# Items of a TOML document

A document is a table: a list of keys with items, in the order in which the keys come to their
final place.  While a document is read, a table also knows how it came about, because that decides
what may still be added to it.

## Main definitions

* `Toml.Item` — a value, a table, or an array of tables; items can be compared.
* `Toml.Table.modifyAt` — change a table some keys below another one.
* `Toml.Table.insertAt` — put a value under a dotted key.
-/

namespace NamedCells.Toml

/-- How a table came about. -/
inductive TableKind where
  /-- It has a header of its own, or is the document. -/
  | headed
  /-- It has no header, but stands in the header of a table below it. -/
  | implied
  /-- It stands before a dot in the key of a value. -/
  | dotted
  /-- It was written in braces. -/
  | inline
  deriving DecidableEq, Repr

/-- What stands under a key. -/
inductive Item where
  | string (text : String)
  | integer (value : Int)
  | float (value : Binary64)
  | boolean (value : Bool)
  /-- A date, a time, or both; which one is not kept. -/
  | datetime
  | array (items : List Item)
  | table (kind : TableKind) (entries : List (String × Item))
  /-- An array of tables, each with a header of its own. -/
  | tables (elements : List (List (String × Item)))
  deriving Repr

/-! ### Comparing items -/

mutual

/-- Whether two items are the same. -/
def Item.same : Item → Item → Bool
  | .string s, .string t => s == t
  | .integer m, .integer n => m == n
  | .float x, .float y => x == y
  | .boolean a, .boolean b => a == b
  | .datetime, .datetime => true
  | .array xs, .array ys => sameItems xs ys
  | .table kind xs, .table kind' ys => kind == kind' && sameEntries xs ys
  | .tables xs, .tables ys => sameTables xs ys
  | _, _ => false

/-- Whether two arrays have the same items. -/
def sameItems : List Item → List Item → Bool
  | [], [] => true
  | x :: xs, y :: ys => x.same y && sameItems xs ys
  | _, _ => false

/-- Whether two tables have the same keys with the same items, in the same order. -/
def sameEntries : List (String × Item) → List (String × Item) → Bool
  | [], [] => true
  | (k, x) :: xs, (l, y) :: ys => k == l && x.same y && sameEntries xs ys
  | _, _ => false

/-- Whether two arrays of tables have the same tables. -/
def sameTables : List (List (String × Item)) → List (List (String × Item)) → Bool
  | [], [] => true
  | x :: xs, y :: ys => sameEntries x y && sameTables xs ys
  | _, _ => false

end

mutual

theorem Item.same_iff : ∀ x y : Item, x.same y = true ↔ x = y
  | .string _, y => by cases y <;> simp [Item.same]
  | .integer _, y => by cases y <;> simp [Item.same]
  | .float _, y => by cases y <;> simp [Item.same]
  | .boolean _, y => by cases y <;> simp [Item.same]
  | .datetime, y => by cases y <;> simp [Item.same]
  | .array xs, y => by cases y <;> simp [Item.same, sameItems_iff xs]
  | .table _ xs, y => by cases y <;> simp [Item.same, sameEntries_iff xs]
  | .tables xs, y => by cases y <;> simp [Item.same, sameTables_iff xs]

theorem sameItems_iff : ∀ xs ys : List Item, sameItems xs ys = true ↔ xs = ys
  | [], ys => by cases ys <;> simp [sameItems]
  | x :: xs, ys => by cases ys <;> simp [sameItems, x.same_iff, sameItems_iff xs]

theorem sameEntries_iff : ∀ xs ys : List (String × Item), sameEntries xs ys = true ↔ xs = ys
  | [], ys => by cases ys <;> simp [sameEntries]
  | (_, _) :: _, [] => by simp [sameEntries]
  | (_, x) :: xs, (_, _) :: ys => by
    simp [sameEntries, x.same_iff, sameEntries_iff xs]

theorem sameTables_iff : ∀ xs ys : List (List (String × Item)), sameTables xs ys = true ↔ xs = ys
  | [], ys => by cases ys <;> simp [sameTables]
  | x :: xs, ys => by cases ys <;> simp [sameTables, sameEntries_iff x, sameTables_iff xs]

end

instance : DecidableEq Item := fun x y => decidable_of_iff _ (x.same_iff y)

/-! ### Tables -/

/-- The keys of a table with their items. -/
abbrev Entries := List (String × Item)

/-- A table while its document is read. -/
structure Table where
  /-- How it came about. -/
  kind : TableKind
  /-- Its keys with their items. -/
  entries : Entries

namespace Table

/-- The item under a key. -/
def find? (t : Table) (key : String) : Option Item := t.entries.lookup key

/-- Put an item under a new key. -/
def add (t : Table) (key : String) (item : Item) : Table :=
  { t with entries := t.entries ++ [(key, item)] }

/-- Put another item under a key. -/
def replace (t : Table) (key : String) (item : Item) : Table :=
  { t with entries := t.entries.map fun (k, old) => if k = key then (k, item) else (k, old) }

/-- Take a key out. -/
def erase (t : Table) (key : String) : Table :=
  { t with entries := t.entries.filter fun (k, _) => k ≠ key }

/-- A table as the item of its parent. -/
def toItem (t : Table) : Item := .table t.kind t.entries

/-- Whether a table may be entered on the way to another one.  A header may lead through any table
that was not written in braces; a dotted key must not lead into one that has its own header. -/
def canEnter (byDots : Bool) : TableKind → Bool
  | .headed => !byDots
  | .implied => true
  | .dotted => true
  | .inline => false

/-- Change the table that lies below `t` under `path`, with an answer.  Tables missing on the way
are made; they are `dotted` on the way of a dotted key and `implied` on that of a header.  An array
of tables stands for its latest element. -/
def modifyAt {α : Type} (byDots : Bool) (change : Table → Option (α × Table)) :
    List String → Table → Option (α × Table)
  | [], t => change t
  | key :: path, t =>
    match t.find? key with
    | none => do
      let missing : Table := ⟨if byDots then .dotted else .implied, []⟩
      let (answer, child) ← modifyAt byDots change path missing
      some (answer, t.add key child.toItem)
    | some (.table kind entries) =>
      if canEnter byDots kind then do
        let (answer, child) ← modifyAt byDots change path ⟨kind, entries⟩
        some (answer, t.replace key child.toItem)
      else none
    | some (.tables elements) =>
      match elements.getLast? with
      | some last => do
        let (answer, child) ← modifyAt byDots change path ⟨.headed, last⟩
        some (answer, t.replace key (.tables (elements.dropLast ++ [child.entries])))
      | none => none
    | some _ => none

/-- Put a value under a dotted key, given as the keys before the last dot and the last one.  No
key may be given twice, and the table in front of the last dot must be one that dots made. -/
def insertAt (t : Table) (path : List String) (key : String) (item : Item) : Option Table :=
  let inserted := t.modifyAt true (fun table =>
    if path ≠ [] ∧ table.kind ≠ .dotted then none
    else if (table.find? key).isSome then none
    else some ((), table.add key item)) path
  inserted.map Prod.snd

end Table

end NamedCells.Toml
