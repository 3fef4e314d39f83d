import Mathlib.Data.List.Nodup
import NamedCells.Toml.Document

/-!
# No table of a document has a key twice

While a document is read, its tables change in three ways: a key that a table does not have is
added, the item under a key is replaced, and a key is taken out.  None of them gives a table a key
twice, and this goes on through the change of a table some keys below another one.  What is put
into a table is either a value, whose own tables came about in the same way, or a table that was
kept apart until its lines were read.

## Main definitions

* `Toml.Item.KeysDistinct`, `Toml.Table.KeysDistinct` — no table within has a key twice.
* `Toml.Reader.Gives` — what a reader gives has a property.
* `Toml.Draft.KeysDistinct` — the same of a document of which some lines are read.

## Main results

* `Toml.Table.KeysDistinct.modifyAt` — a change at some place keeps what it keeps of that table.
* `Toml.value_gives` — no table of a value has a key twice.
* `Toml.keysDistinct_of_parse?` — **no table of a document has a key twice.**
-/

namespace NamedCells.Toml

/-- No table within an item has a key twice. -/
inductive Item.KeysDistinct : Item → Prop
  | string (text : String) : KeysDistinct (.string text)
  | integer (n : Int) : KeysDistinct (.integer n)
  | float (x : Binary64) : KeysDistinct (.float x)
  | boolean (b : Bool) : KeysDistinct (.boolean b)
  | datetime : KeysDistinct .datetime
  | array {items : List Item} (each : ∀ item ∈ items, KeysDistinct item) :
    KeysDistinct (.array items)
  | table {kind : TableKind} {entries : Entries} (distinct : (entries.map Prod.fst).Nodup)
    (each : ∀ entry ∈ entries, KeysDistinct entry.2) : KeysDistinct (.table kind entries)
  | tables {elements : List Entries}
    (distinct : ∀ entries ∈ elements, (entries.map Prod.fst).Nodup)
    (each : ∀ entries ∈ elements, ∀ entry ∈ entries, KeysDistinct entry.2) :
    KeysDistinct (.tables elements)

/-- A table has no key twice, and no table within it has. -/
structure Table.KeysDistinct (t : Table) : Prop where
  /-- The keys of the table are distinct. -/
  keys : (t.entries.map Prod.fst).Nodup
  /-- No table under a key has a key twice. -/
  items : ∀ entry ∈ t.entries, entry.2.KeysDistinct

/-! ### Tables -/

namespace Table.KeysDistinct

variable {t : Table} {key : String} {item : Item} {kind : TableKind} {entries : Entries}
  {elements : List Entries}

/-- A table without keys has no key twice. -/
theorem empty (kind : TableKind) : KeysDistinct ⟨kind, []⟩ := ⟨List.nodup_nil, nofun⟩

/-- A table as an item. -/
theorem toItem (distinct : t.KeysDistinct) : t.toItem.KeysDistinct :=
  .table distinct.keys distinct.items

/-- An item that is a table, of whatever kind it is then. -/
theorem of_table {kind' : TableKind} (distinct : (Item.table kind entries).KeysDistinct) :
    KeysDistinct ⟨kind', entries⟩ := by
  obtain - | - | - | - | - | - | ⟨keys, items⟩ := distinct
  exact ⟨keys, items⟩

/-- An element of an array of tables. -/
theorem of_tables (distinct : (Item.tables elements).KeysDistinct) (element : entries ∈ elements) :
    KeysDistinct ⟨kind, entries⟩ := by
  obtain - | - | - | - | - | - | - | ⟨keys, items⟩ := distinct
  exact ⟨keys entries element, items entries element⟩

/-- The item under a key. -/
theorem find? (distinct : t.KeysDistinct) (found : t.find? key = some item) :
    item.KeysDistinct := by
  obtain ⟨before, after, here, -⟩ := List.lookup_eq_some_iff.mp found
  exact distinct.items (key, item) (by simp [here])

/-- A key that the table does not have can be added. -/
theorem add (distinct : t.KeysDistinct) (new : t.find? key = none) (value : item.KeysDistinct) :
    (t.add key item).KeysDistinct := by
  constructor
  · have absent : key ∉ t.entries.map Prod.fst := by
      intro present
      obtain ⟨entry, member, same⟩ := List.mem_map.mp present
      have other := List.lookup_eq_none_iff.mp new entry member
      simp [same] at other
    simp only [Table.add, List.map_append, List.map_cons, List.map_nil]
    rw [← List.concat_eq_append]
    exact distinct.keys.concat absent
  · intro entry member
    simp only [Table.add, List.mem_append, List.mem_singleton] at member
    obtain old | rfl := member
    · exact distinct.items entry old
    · exact value

/-- Replacing an item changes no key. -/
theorem replace (distinct : t.KeysDistinct) (value : item.KeysDistinct) :
    (t.replace key item).KeysDistinct := by
  constructor
  · have same : (t.replace key item).entries.map Prod.fst = t.entries.map Prod.fst := by
      rw [Table.replace, List.map_map]
      refine List.map_congr_left fun entry _ => ?_
      dsimp only [Function.comp]
      split <;> rfl
    rw [same]
    exact distinct.keys
  · intro entry member
    obtain ⟨⟨k, old⟩, present, rfl⟩ := List.mem_map.mp member
    dsimp only
    split
    · exact value
    · exact distinct.items (k, old) present

/-- A key can be taken out. -/
theorem erase (distinct : t.KeysDistinct) : (t.erase key).KeysDistinct := by
  constructor
  · exact distinct.keys.sublist (List.filter_sublist.map Prod.fst)
  · intro entry member
    exact distinct.items entry (List.mem_filter.mp member).1

end Table.KeysDistinct

namespace Item.KeysDistinct

variable {t : Table} {elements : List Entries}

/-- An array of tables from its elements. -/
theorem of_elements (each : ∀ entries ∈ elements, Table.KeysDistinct ⟨.headed, entries⟩) :
    (Item.tables elements).KeysDistinct :=
  .tables (fun entries element => (each entries element).keys) fun entries element =>
    (each entries element).items

/-- One more element of an array of tables. -/
theorem append (distinct : (Item.tables elements).KeysDistinct) (last : t.KeysDistinct) :
    (Item.tables (elements ++ [t.entries])).KeysDistinct := by
  refine of_elements fun entries element => ?_
  obtain old | rfl := by simpa only [List.mem_append, List.mem_singleton] using element
  · exact .of_tables distinct old
  · exact ⟨last.keys, last.items⟩

/-- An array of tables without its last element. -/
theorem dropLast (distinct : (Item.tables elements).KeysDistinct) :
    (Item.tables elements.dropLast).KeysDistinct :=
  of_elements fun _ element => .of_tables distinct (List.dropLast_subset _ element)

end Item.KeysDistinct

namespace Table.KeysDistinct

variable {t : Table} {key : String} {item : Item}

/-- **A change at some place keeps distinct keys if it keeps those of the table at that place**, and
so for what is known of its answer. -/
theorem modifyAt {α : Type} {P : α → Prop} {byDots : Bool} {change : Table → Option (α × Table)}
    (kept : ∀ {t answer t'}, KeysDistinct t → change t = some (answer, t') →
      P answer ∧ KeysDistinct t')
    {path : List String} {answer : α} {t' : Table} (distinct : t.KeysDistinct)
    (changed : t.modifyAt byDots change path = some (answer, t')) :
    P answer ∧ t'.KeysDistinct := by
  induction path generalizing t t' with
  | nil => exact kept distinct changed
  | cons key path ih =>
    rw [Table.modifyAt] at changed
    cases found : t.find? key with
    | none =>
      simp only [found, Option.bind_eq_bind, Option.bind_eq_some_iff, Option.some.injEq,
        Prod.mk.injEq] at changed
      obtain ⟨⟨answer, child⟩, below, rfl, rfl⟩ := changed
      obtain ⟨known, childDistinct⟩ := ih (empty _) below
      exact ⟨known, distinct.add found childDistinct.toItem⟩
    | some item =>
      -- only a table and an array of tables can be entered
      have itemDistinct := distinct.find? found
      cases item with
      | table kind entries =>
        simp only [found, Option.ite_none_right_eq_some, Option.bind_eq_bind,
          Option.bind_eq_some_iff, Option.some.injEq, Prod.mk.injEq] at changed
        obtain ⟨-, ⟨answer, child⟩, below, rfl, rfl⟩ := changed
        obtain ⟨known, childDistinct⟩ := ih (of_table itemDistinct) below
        exact ⟨known, distinct.replace childDistinct.toItem⟩
      | tables elements =>
        rw [found] at changed
        dsimp only at changed
        cases last? : elements.getLast? with
        | none => simp [last?] at changed
        | some last =>
          simp only [last?, Option.bind_eq_bind, Option.bind_eq_some_iff, Option.some.injEq,
            Prod.mk.injEq] at changed
          obtain ⟨⟨answer, child⟩, below, rfl, rfl⟩ := changed
          have element : last ∈ elements := List.mem_of_getLast? last?
          obtain ⟨known, childDistinct⟩ := ih (of_tables itemDistinct element) below
          exact ⟨known, distinct.replace (itemDistinct.dropLast.append childDistinct)⟩
      | _ => simp [found] at changed

/-- The same of a change whose answer does not matter. -/
theorem modifyAt_table {α : Type} {byDots : Bool} {change : Table → Option (α × Table)}
    (kept : ∀ {t answer t'}, KeysDistinct t → change t = some (answer, t') → KeysDistinct t')
    {path : List String} {answer : α} {t' : Table} (distinct : t.KeysDistinct)
    (changed : t.modifyAt byDots change path = some (answer, t')) : t'.KeysDistinct :=
  (modifyAt (P := fun _ => True) (fun distinct changed => ⟨trivial, kept distinct changed⟩)
    distinct changed).2

/-- A value can be put under a dotted key. -/
theorem insertAt {path : List String} {t' : Table} (distinct : t.KeysDistinct)
    (value : item.KeysDistinct) (inserted : t.insertAt path key item = some t') :
    t'.KeysDistinct := by
  rw [Table.insertAt] at inserted
  obtain ⟨⟨answer, t'⟩, changed, rfl⟩ := Option.map_eq_some_iff.mp inserted
  refine modifyAt_table ?_ distinct changed
  intro t answer t' distinct added
  simp only [Option.ite_none_left_eq_some, Option.some.injEq, Prod.mk.injEq] at added
  obtain ⟨-, new, -, rfl⟩ := added
  exact distinct.add (by simpa using new) value

end Table.KeysDistinct

/-! ### Readers -/

/-- What a reader gives, if it gives anything, has a property. -/
def Reader.Gives {α : Type} (r : Reader α) (P : α → Prop) : Prop :=
  ∀ cs x rest, r cs = some (x, rest) → P x

namespace Reader.Gives

variable {α β : Type} {P : α → Prop} {Q : β → Prop} {r : Reader α} {f : α → Reader β}

theorem pure {x : α} (holds : P x) : Gives (pure x) P := by
  rintro cs x rest ⟨⟩
  exact holds

theorem failure : Gives (failure : Reader α) P := nofun

theorem orFail {x? : Option α} (holds : ∀ x, x? = some x → P x) : Gives (orFail x?) P := by
  cases x? with
  | none => exact failure
  | some x => exact pure (holds x rfl)

/-- First one reader, then one that may depend on what it gave. -/
theorem bind (first : r.Gives P) (next : ∀ x, P x → (f x).Gives Q) : Gives (r >>= f) Q := by
  intro cs y rest read
  obtain ⟨⟨x, rest'⟩, begun, ended⟩ := Option.bind_eq_some_iff.mp read
  exact next x (first cs x rest' begun) rest' y rest ended

/-- First a reader that gives nothing of interest. -/
theorem after (next : ∀ x, (f x).Gives Q) : Gives (r >>= f) Q :=
  bind (P := fun _ => True) (fun _ _ _ _ => trivial) fun x _ => next x

theorem ite {c : Prop} [Decidable c] {r r' : Reader α} (yes : r.Gives P) (no : r'.Gives P) :
    Gives (if c then r else r') P := by
  split
  · exact yes
  · exact no

end Reader.Gives

/-! ### Values -/

/-- A value without marks has no tables. -/
theorem keysDistinct_of_scalar? {cs : List Char} {item : Item} (given : scalar? cs = some item) :
    item.KeysDistinct := by
  rw [scalar?] at given
  repeat' split at given
  · obtain rfl := Option.some.inj given
    exact .boolean true
  · obtain rfl := Option.some.inj given
    exact .boolean false
  · obtain rfl := Option.some.inj given
    exact .datetime
  · obtain rfl := Option.some.inj given
    exact .float _
  · obtain ⟨n, -, rfl⟩ := Option.map_eq_some_iff.mp given
    exact .integer n

theorem scalar_gives : scalar.Gives Item.KeysDistinct :=
  .after fun _ => .after fun _ => .orFail fun _ given => keysDistinct_of_scalar? given

variable {item : Reader Item}

theorem arrayItems_gives (each : item.Gives Item.KeysDistinct) (steps : Nat) {done : List Item}
    (sofar : ∀ x ∈ done, x.KeysDistinct) :
    (arrayItems item steps done).Gives Item.KeysDistinct := by
  have array {items : List Item} (sofar : ∀ x ∈ items, x.KeysDistinct) :
      (Item.array items.reverse).KeysDistinct :=
    .array fun x member => sofar x (List.mem_reverse.mp member)
  induction steps generalizing done with
  | zero => exact .failure
  | succ steps ih =>
    rw [arrayItems]
    -- the array is closed, or else there is one more item
    refine .after fun _ => .after fun _ => .ite (.pure (array sofar)) ?_
    refine .bind each fun x distinct => ?_
    have sofar : ∀ y ∈ x :: done, y.KeysDistinct := List.forall_mem_cons.mpr ⟨distinct, sofar⟩
    exact .after fun _ => .after fun _ => .ite (ih sofar) (.after fun _ => .pure (array sofar))

theorem inlineEntries_gives (each : item.Gives Item.KeysDistinct) (steps : Nat) {t : Table}
    (sofar : t.KeysDistinct) : (inlineEntries item steps t).Gives Item.KeysDistinct := by
  induction steps generalizing t with
  | zero => exact .failure
  | succ steps ih =>
    rw [inlineEntries]
    refine .after fun (path, last) => .after fun _ => .after fun _ => ?_
    refine .bind each fun x distinct => .after fun _ => ?_
    refine .bind (.orFail fun _ => sofar.insertAt distinct) fun t sofar => .after fun _ => ?_
    exact .ite (ih sofar) (.after fun _ => .pure sofar.toItem)

theorem inlineTable_gives (each : item.Gives Item.KeysDistinct) (steps : Nat) :
    (inlineTable item steps).Gives Item.KeysDistinct := by
  have empty : Table.KeysDistinct ⟨.inline, []⟩ := .empty .inline
  refine .after fun _ => .after fun _ => .ite (.pure empty.toItem) ?_
  exact inlineEntries_gives each steps empty

theorem string_gives : (Item.string <$> string).Gives Item.KeysDistinct :=
  .after fun text => .pure (.string text)

/-- **No table of a value has a key twice.** -/
theorem value_gives (steps depth : Nat) : (value steps depth).Gives Item.KeysDistinct := by
  induction depth with
  | zero =>
    rw [value]
    refine .after fun next => ?_
    split
    · exact string_gives
    · exact string_gives
    · exact scalar_gives
  | succ depth ih =>
    rw [value]
    refine .after fun next => ?_
    split
    · exact string_gives
    · exact string_gives
    · exact .after fun _ => arrayItems_gives ih steps nofun
    · exact .after fun _ => inlineTable_gives ih steps
    · exact scalar_gives

/-! ### Lines -/

/-- No table of a document of which some lines are read has a key twice. -/
structure Draft.KeysDistinct (d : Draft) : Prop where
  /-- No table has that is finished. -/
  document : d.document.KeysDistinct
  /-- The table that keys go to has not. -/
  current : d.current.KeysDistinct

namespace Draft.KeysDistinct

variable {d d' : Draft} {t : Table} {path : List String} {key : String}

theorem finish (distinct : d.KeysDistinct) (finished : d.finish = some t) : t.KeysDistinct := by
  rw [Draft.finish] at finished
  split at finished
  · obtain rfl := Option.some.inj finished
    exact distinct.current
  · obtain ⟨⟨answer, t⟩, changed, rfl⟩ := Option.map_eq_some_iff.mp finished
    refine distinct.document.modifyAt_table ?_ changed
    intro parent answer parent' parentDistinct placed
    split at placed
    · next found _ =>
      obtain ⟨-, rfl⟩ := Prod.mk.inj (Option.some.inj placed)
      have elements := (parentDistinct.find? found).append distinct.current
      exact parentDistinct.replace elements
    · next found _ =>
      obtain ⟨-, rfl⟩ := Prod.mk.inj (Option.some.inj placed)
      exact parentDistinct.add found distinct.current.toItem
    · cases placed

theorem openTable (distinct : d.KeysDistinct) (opened : d.openTable path key = some d') :
    d'.KeysDistinct := by
  simp only [Draft.openTable, Option.bind_eq_bind, Option.bind_eq_some_iff, Option.some.injEq]
    at opened
  obtain ⟨document, finished, ⟨entries, document'⟩, changed, rfl⟩ := opened
  have kept : Table.KeysDistinct ⟨.headed, entries⟩ ∧ document'.KeysDistinct := by
    refine (distinct.finish finished).modifyAt
      (P := fun entries => Table.KeysDistinct ⟨.headed, entries⟩) ?_ changed
    intro parent entries parent' parentDistinct moved
    split at moved
    · obtain ⟨rfl, rfl⟩ := Prod.mk.inj (Option.some.inj moved)
      exact ⟨.empty .headed, parentDistinct⟩
    · next found =>
      obtain ⟨rfl, rfl⟩ := Prod.mk.inj (Option.some.inj moved)
      exact ⟨.of_table (parentDistinct.find? found), parentDistinct.erase⟩
    · cases moved
  exact ⟨kept.2, kept.1⟩

theorem openElement (distinct : d.KeysDistinct) (opened : d.openElement path key = some d') :
    d'.KeysDistinct := by
  simp only [Draft.openElement, Option.bind_eq_bind, Option.bind_eq_some_iff, Option.some.injEq]
    at opened
  obtain ⟨document, finished, ⟨answer, document'⟩, changed, rfl⟩ := opened
  refine ⟨?_, .empty .headed⟩
  refine (distinct.finish finished).modifyAt_table ?_ changed
  intro parent answer parent' parentDistinct made
  split at made
  · next found =>
    obtain ⟨-, rfl⟩ := Prod.mk.inj (Option.some.inj made)
    exact parentDistinct.add found (.tables nofun nofun)
  · obtain ⟨-, rfl⟩ := Prod.mk.inj (Option.some.inj made)
    exact parentDistinct
  · cases made

end Draft.KeysDistinct

variable {d : Draft}

theorem headerLine_gives (distinct : d.KeysDistinct) :
    (headerLine d).Gives Draft.KeysDistinct := by
  rw [headerLine]
  refine .after fun isElement => .after fun (path, last) => .after fun _ => ?_
  cases isElement with
  | false => exact .after fun _ => .orFail fun _ => distinct.openTable
  | true => exact .after fun _ => .after fun _ => .orFail fun _ => distinct.openElement

theorem keyLine_gives (steps : Nat) (distinct : d.KeysDistinct) :
    (keyLine steps d).Gives Draft.KeysDistinct := by
  rw [keyLine]
  refine .after fun (path, last) => .after fun _ => .after fun _ => ?_
  refine .bind (value_gives steps _) fun item value => .after fun _ => ?_
  refine .bind (.orFail fun _ => distinct.current.insertAt value) fun current inserted => ?_
  exact .pure ⟨distinct.document, inserted⟩

theorem lines_gives (steps : Nat) (distinct : d.KeysDistinct) :
    (lines steps d).Gives Draft.KeysDistinct := by
  induction steps generalizing d with
  | zero => exact .failure
  | succ steps ih =>
    rw [lines]
    refine .after fun _ => .after fun next => ?_
    split
    · exact .pure distinct
    · exact .after fun _ => ih distinct
    · exact .after fun _ => ih distinct
    · exact .after fun _ => .bind (headerLine_gives distinct) fun d => ih
    · exact .bind (keyLine_gives _ distinct) fun d => ih

/-- **No table of a document has a key twice.** -/
theorem keysDistinct_of_parse? {text : String} {document : Entries}
    (read : parse? text = some document) : Table.KeysDistinct ⟨.headed, document⟩ := by
  have empty : Draft.KeysDistinct .empty := ⟨.empty .headed, .empty .headed⟩
  simp only [parse?, Option.bind_eq_bind, Option.bind_eq_some_iff, Option.some.injEq] at read
  obtain ⟨⟨draft, rest⟩, begun, t, finished, rfl⟩ := read
  have distinct : t.KeysDistinct :=
    (lines_gives _ empty _ draft rest begun).finish finished
  exact ⟨distinct.keys, distinct.items⟩

end NamedCells.Toml
