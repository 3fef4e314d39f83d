import NamedCells.Engine
import NamedCells.Proofs.Outcomes

/-!
# The invariant of a registry

Whatever is done to a registry, it holds no more cells than its policy has room for, finds each cell
under the name that the cell bears, and holds only cells whose name, value and record its policy
allows.

What an operation can do is said once, by `RegistryStep`, and `CellOrigin` says of a step where the
cell that is found under a name afterwards comes from: it was there before, or it is new, or it is a
cell from before after one more write.  An engine does nothing to its registry that a registry
cannot do by itself, so the invariant holds of engines because it holds of registries.

## Main definitions

* `RegistryOperation`, `Registry.apply`, `Registry.applyAll` — operations on a registry as values,
  and what they leave.
* `Operation.onCells` — what an operation on an engine does to the registry.
* `Cell.Fits`, `Registry.Sound` — the invariant, for one cell and for a registry.
* `RegistryStep`, `CellOrigin` — what an operation can do, and where a cell comes from.

## Main results

* `Registry.apply_step`, `RegistryStep.cellOrigin` — every operation is a step, and every cell after
  a step has an origin before it.
* `Registry.Sound.step`, `Registry.Sound.applyAll` — a step keeps the invariant, and so do several
  operations.
* `Engine.registry_run` — a run of an engine as operations on its registry.
* `registry_sound` — **every registry that can be reached satisfies the invariant**, on its own and
  in an engine.
-/

namespace NamedCells

/-! ### Operations on a registry as values -/

/-- An operation on a registry as a value. -/
inductive RegistryOperation where
  | create (name : String) (value : Binary64)
  | assign (name : String) (value : Binary64)
  | lookup (name : String)
  | get (name : String)
  | remove (name : String)
  | clear
  deriving DecidableEq, Repr

namespace Registry

/-- The registry that an operation leaves, be it refused or not. -/
def apply (r : Registry) : RegistryOperation → Registry
  | .create name value => (r.create name value).2
  | .assign name value => (r.assign name value).2
  | .remove name => (r.remove name).2
  | .clear => r.clear
  | .lookup _ | .get _ => r

/-- The registry after several operations. -/
def applyAll (r : Registry) (ops : List RegistryOperation) : Registry := ops.foldl apply r

@[simp] theorem applyAll_nil (r : Registry) : r.applyAll [] = r := rfl

@[simp] theorem applyAll_cons (r : Registry) (op : RegistryOperation)
    (ops : List RegistryOperation) : r.applyAll (op :: ops) = (r.apply op).applyAll ops := rfl

end Registry

/-! ### The invariant -/

/-- The cell is one that a registry with the policy may hold under the name: it bears the name,
which is well formed, its value is one that the policy admits, the creation is its first write and
the only one that counts as such, and no other creation came later where the policy forbids it. -/
structure Cell.Fits (config : EngineConfig) (name : String) (cell : Cell) : Prop where
  name_eq : cell.name = name
  good : Name.fault? name = none
  admitted : config.allowNonFinite = true ∨ cell.value.isFinite = true
  revision_pos : 1 ≤ cell.revision
  first_iff : cell.revision = 1 ↔ cell.lastChange = .created
  policy : config.redefinition = .reject → cell.lastChange ≠ .redefined

/-- The invariant of a registry that was made with a policy: the policy is the one from the
beginning and leaves room for all cells, each of which it allows. -/
structure Registry.Sound (config : EngineConfig) (r : Registry) : Prop where
  config_eq : r.config = config
  capacity : r.size ≤ config.maxCells
  cells : ∀ name cell, r.get? name = some cell → cell.Fits config name

namespace Cell.Fits

variable {config : EngineConfig} {name : String} {value : Binary64}

theorem create (good : Name.fault? name = none)
    (admitted : config.allowNonFinite = true ∨ value.isFinite = true) :
    (Cell.create name value).Fits config name where
  name_eq := rfl
  good := good
  admitted := admitted
  revision_pos := Nat.le_refl 1
  first_iff := ⟨fun _ => rfl, fun _ => rfl⟩
  policy := fun _ => by simp [Cell.create]

/-- Every write but the creation makes a later revision, so it must not claim to be one. -/
theorem write {cell : Cell} (fits : cell.Fits config name) {change : Change}
    (admitted : config.allowNonFinite = true ∨ value.isFinite = true)
    (later : change ≠ .created) (policy : config.redefinition = .reject → change ≠ .redefined) :
    (cell.write value change).Fits config name where
  name_eq := fits.name_eq
  good := fits.good
  admitted := admitted
  revision_pos := Nat.le_add_left 1 cell.revision
  first_iff := by
    have before := fits.revision_pos
    constructor
    · intro first
      have first : cell.revision + 1 = 1 := first
      omega
    · intro created
      exact absurd created later
  policy := policy

end Cell.Fits

/-! ### What an operation can do -/

/-- What an operation can do to a registry. -/
inductive RegistryStep (r : Registry) : Registry → Prop
  /-- Nothing, as when it was refused. -/
  | kept : RegistryStep r r
  /-- There is a new cell. -/
  | inserted (name : String) (value : Binary64) (good : Name.fault? name = none)
    (admitted : r.Admits value) (free : r.get? name = none) (room : r.size < r.config.maxCells) :
    RegistryStep r (r.put name (Cell.create name value))
  /-- A cell was written once more. -/
  | rewritten (name : String) (cell : Cell) (value : Binary64) (change : Change)
    (admitted : r.Admits value) (taken : r.get? name = some cell) (later : change ≠ .created)
    (policy : r.config.redefinition = .reject → change ≠ .redefined) :
    RegistryStep r (r.put name (cell.write value change))
  /-- A cell was taken out. -/
  | erased (name : String) : RegistryStep r (r.erase name)
  /-- All cells were taken out. -/
  | cleared : RegistryStep r r.clear

/-- Where the cell comes from that is found under a name after a step. -/
inductive CellOrigin (r : Registry) (name : String) : Cell → Prop
  /-- It was there. -/
  | kept (cell : Cell) (held : r.get? name = some cell) : CellOrigin r name cell
  /-- It is new. -/
  | created (value : Binary64) (good : Name.fault? name = none) (admitted : r.Admits value) :
    CellOrigin r name (Cell.create name value)
  /-- It was there and was written once more. -/
  | rewritten (cell : Cell) (value : Binary64) (change : Change) (held : r.get? name = some cell)
    (admitted : r.Admits value) (later : change ≠ .created)
    (policy : r.config.redefinition = .reject → change ≠ .redefined) :
    CellOrigin r name (cell.write value change)

namespace Registry

/-- **Every operation is a step.** -/
theorem apply_step (r : Registry) (op : RegistryOperation) : RegistryStep r (r.apply op) := by
  cases op with
  | create name value =>
    have outcome := r.create_outcome name value
    rw [apply]
    generalize r.create name value = result at outcome ⊢
    cases outcome with
    | inserted good admitted free room => exact .inserted name value good admitted free room
    | redefined good admitted cell taken overwrite =>
      refine .rewritten name cell value .redefined admitted taken (by simp) ?_
      intro reject
      rw [overwrite] at reject
      cases reject
    | _ => exact .kept
  | assign name value =>
    have outcome := r.assign_outcome name value
    rw [apply]
    generalize r.assign name value = result at outcome ⊢
    cases outcome with
    | assigned good admitted cell taken =>
      exact .rewritten name cell value .assigned admitted taken (by simp) (fun _ => by simp)
    | _ => exact .kept
  | remove name =>
    have outcome := r.remove_outcome name
    rw [apply]
    generalize r.remove name = result at outcome ⊢
    cases outcome with
    | removed => exact .erased name
    | _ => exact .kept
  | clear => exact .cleared
  | lookup | get => exact .kept

/-! ### Sizes -/

theorem size_put_of_eq_some {r : Registry} {name : String} {cell old : Cell}
    (taken : r.get? name = some old) : (r.put name cell).size = r.size := by
  have contained : r.contains name = true := by rw [contains_eq_isSome_get?, taken]; rfl
  have present : name ∈ r.cells := Std.ExtTreeMap.mem_iff_contains.mpr contained
  simp [put, size, Std.ExtTreeMap.size_insert, present]

theorem size_put_of_eq_none {r : Registry} {name : String} {cell : Cell}
    (free : r.get? name = none) : (r.put name cell).size = r.size + 1 := by
  have untaken : r.contains name = false := by rw [contains_eq_isSome_get?, free]; rfl
  have absent : name ∉ r.cells := by
    rw [Std.ExtTreeMap.mem_iff_contains]
    exact Bool.eq_false_iff.mp untaken
  simp [put, size, Std.ExtTreeMap.size_insert, absent]

theorem size_erase_le (r : Registry) (name : String) : (r.erase name).size ≤ r.size :=
  Std.ExtTreeMap.size_erase_le

theorem size_erase_of_eq_some {r : Registry} {name : String} {cell : Cell}
    (taken : r.get? name = some cell) : (r.erase name).size + 1 = r.size := by
  have contained : r.cells.contains name = true := by
    rw [← contains, contains_eq_isSome_get?, taken]
    rfl
  have positive : r.cells.size ≠ 0 := by
    intro none
    have nothing : r.cells = ∅ := Std.ExtTreeMap.eq_empty_iff_size_eq_zero.mpr none
    simp [nothing] at contained
  rw [erase, size, size, Std.ExtTreeMap.size_erase, if_pos contained]
  omega

end Registry

/-! ### Facts about steps -/

namespace RegistryStep

variable {r next : Registry}

theorem config_eq (step : RegistryStep r next) : next.config = r.config := by
  cases step <;> rfl

/-- Only where there is room does a registry become larger. -/
theorem size_le (step : RegistryStep r next) (before : r.size ≤ r.config.maxCells) :
    next.size ≤ r.config.maxCells := by
  cases step with
  | kept => exact before
  | inserted name value good admitted free room =>
    calc (r.put name (Cell.create name value)).size
        = r.size + 1 := Registry.size_put_of_eq_none free
      _ ≤ r.config.maxCells := room
  | rewritten name cell value change admitted taken =>
    calc (r.put name (cell.write value change)).size
        = r.size := Registry.size_put_of_eq_some taken
      _ ≤ r.config.maxCells := before
  | erased name => exact Nat.le_trans (r.size_erase_le name) before
  | cleared =>
    rw [Registry.clear, Registry.size_empty]
    exact Nat.zero_le _

/-- **Every cell after a step has an origin before it.** -/
theorem cellOrigin (step : RegistryStep r next) {name : String} {cell : Cell}
    (held : next.get? name = some cell) : CellOrigin r name cell := by
  cases step with
  | kept => exact .kept cell held
  | inserted target value good admitted =>
    rw [Registry.get?_put] at held
    split at held
    case isTrue same =>
      subst same
      obtain rfl := Option.some.inj held
      exact .created value good admitted
    case isFalse => exact .kept cell held
  | rewritten target old value change admitted taken later policy =>
    rw [Registry.get?_put] at held
    split at held
    case isTrue same =>
      subst same
      obtain rfl := Option.some.inj held
      exact .rewritten old value change taken admitted later policy
    case isFalse => exact .kept cell held
  | erased target =>
    rw [Registry.get?_erase] at held
    split at held
    case isTrue => cases held
    case isFalse => exact .kept cell held
  | cleared =>
    rw [Registry.clear, Registry.get?_empty] at held
    cases held

end RegistryStep

namespace Registry

/-! ### The invariant is kept -/

namespace Sound

variable {config : EngineConfig} {r : Registry}

theorem empty (config : EngineConfig) : (Registry.empty config).Sound config where
  config_eq := rfl
  capacity := by rw [size_empty]; exact Nat.zero_le _
  cells := by
    intro name cell held
    rw [get?_empty] at held
    cases held

/-- A cell that comes from a sound registry is one that the policy allows. -/
theorem fits_of_origin (sound : r.Sound config) {name : String} {cell : Cell}
    (origin : CellOrigin r name cell) : cell.Fits config name := by
  obtain rfl := sound.config_eq
  cases origin with
  | kept _ held => exact sound.cells name cell held
  | created value good admitted => exact .create good admitted
  | rewritten old value change held admitted later policy =>
    exact (sound.cells name old held).write admitted later policy

/-- **A step keeps the invariant.** -/
theorem step {next : Registry} (sound : r.Sound config) (step : RegistryStep r next) :
    next.Sound config where
  config_eq := step.config_eq.trans sound.config_eq
  capacity := by
    obtain rfl := sound.config_eq
    exact step.size_le sound.capacity
  cells := fun _ _ held => sound.fits_of_origin (step.cellOrigin held)

theorem applyAll (sound : r.Sound config) (ops : List RegistryOperation) :
    (r.applyAll ops).Sound config := by
  induction ops generalizing r with
  | nil => exact sound
  | cons op ops ih => exact ih (sound.step (r.apply_step op))

end Sound

/-! ### Revisions are bounded by the operations -/

/-- A cell has no more than one revision for each operation and those it had before. -/
theorem revision_applyAll_le {ops : List RegistryOperation} {r : Registry} {n : Nat}
    (before : ∀ name cell, r.get? name = some cell → cell.revision ≤ n)
    {name : String} {cell : Cell} (held : (r.applyAll ops).get? name = some cell) :
    cell.revision ≤ n + ops.length := by
  induction ops generalizing r n with
  | nil => exact before name cell held
  | cons op ops ih =>
    have step : ∀ name cell, (r.apply op).get? name = some cell → cell.revision ≤ n + 1 := by
      intro name cell held
      cases (r.apply_step op).cellOrigin held with
      | kept _ taken => exact Nat.le_succ_of_le (before name cell taken)
      | created => exact Nat.le_add_left 1 n
      | rewritten old value change taken => exact Nat.succ_le_succ (before name old taken)
    have rest : cell.revision ≤ n + 1 + ops.length := ih step held
    rw [List.length_cons]
    omega

/-- A cell of a registry that was empty has no more revisions than there were operations. -/
theorem revision_applyAll_empty_le {config : EngineConfig} {ops : List RegistryOperation}
    {name : String} {cell : Cell}
    (held : ((empty config).applyAll ops).get? name = some cell) :
    cell.revision ≤ ops.length := by
  have bound : cell.revision ≤ 0 + ops.length := by
    refine revision_applyAll_le (fun name cell held => ?_) held
    rw [get?_empty] at held
    cases held
  rwa [Nat.zero_add] at bound

end Registry

/-! ### Engines -/

/-- What an operation on an engine does to the registry. -/
def Operation.onCells : Operation → Option RegistryOperation
  | .create name value => some (.create name value)
  | .set name value => some (.assign name value)
  | .get name => some (.lookup name)
  | .cell name => some (.lookup name)
  | .remove name => some (.remove name)
  | .reset => some .clear
  | _ => none

namespace Engine

/-- An operation on an engine is one on its registry, or leaves it alone. -/
theorem registry_perform (g : Engine) (op : Operation) :
    (g.perform op).2.registry = g.registry.applyAll op.onCells.toList := by
  cases op with
  | create name value =>
    -- the channel is different for each answer, and the registry is the one that is left
    change (g.create name value).2.registry = (g.registry.create name value).2
    rw [create]
    rcases g.registry.create name value with ⟨_ | write, next⟩
    · rfl
    · cases write <;> rfl
  | _ => rfl

/-- **A run of an engine as operations on its registry.** -/
theorem registry_run (g : Engine) (ops : List Operation) :
    (g.run ops).2.registry = g.registry.applyAll (ops.filterMap Operation.onCells) := by
  induction ops generalizing g with
  | nil => rfl
  | cons op ops ih =>
    calc (g.run (op :: ops)).2.registry
        = (g.perform op).2.registry.applyAll (ops.filterMap Operation.onCells) := ih _
      _ = (g.registry.applyAll op.onCells.toList).applyAll
            (ops.filterMap Operation.onCells) := by rw [registry_perform]
      _ = g.registry.applyAll ((op :: ops).filterMap Operation.onCells) := by
          rw [List.filterMap_cons]
          cases op.onCells <;> rfl

/-- In a run of a new engine its registry stays sound. -/
theorem sound_run (config : EngineConfig) (ops : List Operation) :
    ((new config).run ops).2.registry.Sound config := by
  rw [registry_run]
  exact (Registry.Sound.empty config).applyAll _

end Engine

/-- **The invariant of a registry.**  Whatever the policy, be it without room for any cell, and
whatever was done, a registry that was empty satisfies the invariant, and no cell has more revisions
than there were operations, so that a counter of 64 bits is wide enough for every run of fewer than
2⁶⁴ operations.  The same holds of the registry of an engine. -/
theorem registry_sound (config : EngineConfig) :
    (∀ ops : List RegistryOperation,
      let r := (Registry.empty config).applyAll ops
      r.Sound config ∧ ∀ name cell, r.get? name = some cell → cell.revision ≤ ops.length) ∧
    (∀ ops : List Operation,
      let r := ((Engine.new config).run ops).2.registry
      r.Sound config ∧ ∀ name cell, r.get? name = some cell → cell.revision ≤ ops.length) := by
  constructor
  · intro ops r
    exact ⟨(Registry.Sound.empty config).applyAll ops,
      fun _ _ held => Registry.revision_applyAll_empty_le held⟩
  · intro ops r
    have same : r = (Registry.empty config).applyAll (ops.filterMap Operation.onCells) :=
      (Engine.new config).registry_run ops
    rw [same]
    refine ⟨(Registry.Sound.empty config).applyAll _, fun name cell held => ?_⟩
    calc cell.revision
        ≤ (ops.filterMap Operation.onCells).length := Registry.revision_applyAll_empty_le held
      _ ≤ ops.length := List.length_filterMap_le _ _

/-- A full registry that rejects redefinitions refuses two of these creations, and what is found
afterwards is the cell with the value it was assigned. -/
theorem registry_sound_full :
    let config : EngineConfig := { redefinition := .reject, maxCells := 1 }
    let r := (Registry.empty config).applyAll
      [.create "a" ⟨1⟩, .create "b" ⟨2⟩, .create "a" ⟨3⟩, .assign "a" ⟨4⟩]
    let cell : Cell := ⟨"a", .value, ⟨4⟩, 2, .assigned⟩
    r.get? "a" = some cell ∧ cell.Fits config "a" ∧ r.size ≤ 1 ∧ cell.revision ≤ 4 := by
  intro config r cell
  have held : r.get? "a" = some cell := rfl
  obtain ⟨sound, bounded⟩ := (registry_sound config).1
    [.create "a" ⟨1⟩, .create "b" ⟨2⟩, .create "a" ⟨3⟩, .assign "a" ⟨4⟩]
  exact ⟨held, sound.cells "a" cell held, sound.capacity, bounded "a" cell held⟩

end NamedCells
