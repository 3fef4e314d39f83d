import Std.Data.ExtTreeMap
import NamedCells.Cell
import NamedCells.Config
import NamedCells.Error

/-!
# The registry of cells

A registry holds the cells of one engine under their names and enforces the policy of the engine.
An operation that changes cells goes step by step.  It ends with an answer or with an error, and
whatever it has done to the registry by then stays done: nothing takes a change back.

Where several things are wrong the first of this order is reported: the name, the value, and then
whatever concerns the cell that has, or has not, the name.  Memory is taken to suffice; a creation
is never refused for want of it.

## Main definitions

* `Registry` — the cells and the policy.
* `Registry.Update`, `Registry.update` — the steps of a change, and what they come to.
* `Registry.create`, `Registry.assign`, `Registry.lookup`, `Registry.remove`, `Registry.clear`.
* `Registry.names` — the names in ascending order of their bytes.

## Main results

* `Registry.ext_get?` — a registry is known by its policy and the cell under each name.
* `Registry.get?_empty`, `Registry.get?_put`, `Registry.get?_erase` — what is found at first, after
  a cell was stored, and after one was taken out.
-/

namespace NamedCells

/-- The cells of an engine by name, and its policy.  Two registries are equal iff they have the
same policy and the same cell under each name. -/
structure Registry where
  /-- The policy. -/
  config : EngineConfig
  /-- The cells by name. -/
  cells : Std.ExtTreeMap String Cell

/-- What a creation did. -/
inductive Write where
  /-- It made a new cell. -/
  | inserted
  /-- It gave an existing cell a new value. -/
  | redefined (previous : Binary64)
  deriving DecidableEq, Repr

/-- The status of a creation: redefining a cell is a success that is reported as a duplicate. -/
def Write.status : Write → Status
  | .inserted => .ok
  | .redefined _ => .duplicateCellName

namespace Registry

/-- The registry without cells. -/
def empty (config : EngineConfig) : Registry := ⟨config, ∅⟩

/-- The cell with a name, which need not be well formed. -/
def get? (r : Registry) (name : String) : Option Cell := r.cells[name]?

/-- Whether a cell has the name. -/
def contains (r : Registry) (name : String) : Bool := r.cells.contains name

/-- How many cells there are. -/
def size (r : Registry) : Nat := r.cells.size

/-- Whether there are no cells. -/
def isEmpty (r : Registry) : Bool := r.cells.isEmpty

/-- The names of all cells in ascending order: they are collected and then sorted.  Characters in
ascending order of their code points have encodings in ascending order of their bytes, so this is
also the order of the encodings. -/
def names (r : Registry) : List String := r.cells.keys.mergeSort

/-- Store a cell under a name. -/
def put (r : Registry) (name : String) (cell : Cell) : Registry :=
  { r with cells := r.cells.insert name cell }

/-- Take the cell with a name out, if there is one. -/
def erase (r : Registry) (name : String) : Registry :=
  { r with cells := r.cells.erase name }

/-- Refuse a name that is not well formed. -/
def checkName (name : String) : Except EngineError Unit :=
  match Name.fault? name with
  | some fault => .error (.invalidName name fault)
  | none => .ok ()

/-- Refuse a value that the policy does not admit. -/
def checkValue (r : Registry) (name : String) (value : Binary64) : Except EngineError Unit :=
  if r.config.allowNonFinite || value.isFinite then .ok ()
  else .error (.nonFiniteValue name value)

/-- The cell with a well-formed name. -/
def lookup (r : Registry) (name : String) : Except EngineError Cell := do
  checkName name
  match r.get? name with
  | some cell => .ok cell
  | none => .error (.cellNotFound name)

/-! ### Changes -/

/-- The steps of a change.  An error ends them, and leaves the registry as the steps up to there
have made it. -/
abbrev Update (α : Type) := ExceptT EngineError (StateM Registry) α

/-- Take the steps of a change: how it ends, and the registry that it leaves. -/
def update {α : Type} (r : Registry) (steps : Update α) : Except EngineError α × Registry :=
  steps.run.run r

/-- Create a cell.  If the name is taken the policy decides; only a new name needs room. -/
def create (r : Registry) (name : String) (value : Binary64) :
    Except EngineError Write × Registry :=
  r.update do
    checkName name
    checkValue (← get) name value
    match (← get).get? name with
    | some cell =>
      match (← get).config.redefinition with
      | .overwrite =>
        modify (·.put name (cell.write value .redefined))
        return .redefined cell.value
      | .reject => throw (.duplicateCellName name)
    | none =>
      let policy := (← get).config
      if policy.maxCells ≤ (← get).size then throw (.capacityExceeded name policy.maxCells)
      modify (·.put name (Cell.create name value))
      return .inserted

/-- Give an existing cell a new value.  The answer is the previous value. -/
def assign (r : Registry) (name : String) (value : Binary64) :
    Except EngineError Binary64 × Registry :=
  r.update do
    checkName name
    checkValue (← get) name value
    match (← get).get? name with
    | some cell =>
      modify (·.put name (cell.write value .assigned))
      return cell.value
    | none => throw (.cellNotFound name)

/-- Remove a cell.  The answer is its value. -/
def remove (r : Registry) (name : String) : Except EngineError Binary64 × Registry :=
  r.update do
    checkName name
    match (← get).get? name with
    | some cell =>
      modify (·.erase name)
      return cell.value
    | none => throw (.cellNotFound name)

/-- Remove all cells. -/
def clear (r : Registry) : Registry := empty r.config

/-! ### Registries by the cell under each name -/

/-- Two registries with the same policy are equal if they have the same cell under each name. -/
theorem ext_get? {r s : Registry} (policy : r.config = s.config)
    (same : ∀ name, r.get? name = s.get? name) : r = s := by
  have cells : r.cells = s.cells := Std.ExtTreeMap.ext_getElem? same
  cases r
  cases s
  simp_all

@[simp] theorem get?_empty (config : EngineConfig) (name : String) :
    (empty config).get? name = none := by
  simp [empty, get?]

@[simp] theorem size_empty (config : EngineConfig) : (empty config).size = 0 := by
  simp [empty, size]

@[simp] theorem names_empty (config : EngineConfig) : (empty config).names = [] :=
  List.mergeSort_nil

/-- Storing a cell changes what is found under its name only. -/
theorem get?_put (r : Registry) (name other : String) (cell : Cell) :
    (r.put name cell).get? other = if name = other then some cell else r.get? other := by
  simp [put, get?, Std.ExtTreeMap.getElem?_insert]

/-- Taking a cell out changes what is found under its name only. -/
theorem get?_erase (r : Registry) (name other : String) :
    (r.erase name).get? other = if name = other then none else r.get? other := by
  simp [erase, get?, Std.ExtTreeMap.getElem?_erase]

theorem get?_put_self (r : Registry) (name : String) (cell : Cell) :
    (r.put name cell).get? name = some cell := by
  rw [get?_put, if_pos rfl]

theorem get?_erase_self (r : Registry) (name : String) : (r.erase name).get? name = none := by
  rw [get?_erase, if_pos rfl]

/-- A name is taken iff a cell is found under it. -/
theorem contains_eq_isSome_get? (r : Registry) (name : String) :
    r.contains name = (r.get? name).isSome := by
  simp [contains, get?]

/-- The names are those that are taken. -/
theorem mem_names {r : Registry} {name : String} :
    name ∈ r.names ↔ r.contains name = true := by
  simp [names, contains, List.mem_mergeSort]

/-! ### Changes by their first step -/

variable {α : Type}

/-- A check goes first: the change goes on with the same registry, or ends with it. -/
theorem update_check_bind (r : Registry) (check : Except EngineError Unit)
    (next : Unit → Update α) :
    r.update ((liftM check : Update Unit) >>= next) =
      match check with
      | .ok () => r.update (next ())
      | .error e => (.error e, r) := by
  cases check <;> rfl

@[simp] theorem update_get_bind (r : Registry) (next : Registry → Update α) :
    r.update (get >>= next) = r.update (next r) := rfl

@[simp] theorem update_modify_bind (r : Registry) (f : Registry → Registry)
    (next : Unit → Update α) : r.update (modify f >>= next) = (f r).update (next ()) := rfl

@[simp] theorem update_throw (r : Registry) (e : EngineError) :
    r.update (throw e : Update α) = (.error e, r) := rfl

/-- What follows an error is not done. -/
@[simp] theorem update_throw_bind {β : Type} (r : Registry) (e : EngineError)
    (next : β → Update α) : r.update ((throw e : Update β) >>= next) = (.error e, r) := rfl

@[simp] theorem update_pure (r : Registry) (a : α) : r.update (pure a) = (.ok a, r) := rfl

end Registry

end NamedCells
