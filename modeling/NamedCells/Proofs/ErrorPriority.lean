import Mathlib.Tactic.TFAE
import NamedCells.Proofs.RegistryInvariant

/-!
# Which error comes first

Several things can be wrong with an operation at once: the name, the value, a taken or a missing
cell, a lack of room.  The four operations on a cell look for them in one order, so what an
operation comes to can be read off as a decision: a bad name is told before anything else, a value
that the policy does not take before anything about cells, and only then does it matter whether the
cell is there.  A taken name needs no room, whatever the policy makes of it.

In a registry that was made by its operations there are never more cells than there is room for.  So
for a new name to be refused for lack of room the registry must hold exactly as many as it may.

## Main definitions

* `Registry.Reachable` — the registries that were made by operations.

## Main results

* `Registry.size_of_create`, `Registry.size_of_remove` — how an operation that succeeds changes the
  number of cells.
* `Registry.badName_tfae`, `Registry.badValue_tfae` — which refusals come first.
* `outcome_of_operation` — **what every operation on a cell comes to.**
-/

namespace NamedCells

namespace Registry

/-- A registry that was made with a policy and changed by operations only. -/
def Reachable (config : EngineConfig) (r : Registry) : Prop :=
  ∃ ops : List RegistryOperation, r = (empty config).applyAll ops

variable {config : EngineConfig} {r : Registry} {name : String} {value : Binary64}

theorem Reachable.sound (reachable : r.Reachable config) : r.Sound config := by
  obtain ⟨ops, rfl⟩ := reachable
  exact (Sound.empty config).applyAll ops

/-- The registry of an engine is such a registry. -/
theorem reachable_run (config : EngineConfig) (ops : List Operation) :
    ((Engine.new config).run ops).2.registry.Reachable config :=
  ⟨ops.filterMap Operation.onCells, Engine.registry_run _ ops⟩

/-! ### How the number of cells changes -/

/-- A new cell counts, and one that is written once more does not. -/
theorem size_of_create {write : Write} {next : Registry}
    (done : r.create name value = (.ok write, next)) :
    next.size = r.size + if write = .inserted then 1 else 0 := by
  have outcome := r.create_outcome name value
  rw [done] at outcome
  cases outcome with
  | inserted _ _ free => exact size_put_of_eq_none free
  | redefined _ _ _ taken => exact size_put_of_eq_some taken

/-- A cell that is removed counts no more. -/
theorem size_of_remove {previous : Binary64} {next : Registry}
    (done : r.remove name = (.ok previous, next)) : next.size + 1 = r.size := by
  have outcome := r.remove_outcome name
  rw [done] at outcome
  cases outcome with
  | removed _ _ taken => exact size_erase_of_eq_some taken

/-! ### The refusals that come first -/

/-- **A bad name comes first**, and nothing else is told as one. -/
theorem badName_tfae (r : Registry) (name : String) (value : Binary64) (fault : NameFault) :
    [Name.fault? name = some fault,
      (r.create name value).1 = .error (.invalidName name fault),
      (r.assign name value).1 = .error (.invalidName name fault),
      r.lookup name = .error (.invalidName name fault),
      (r.remove name).1 = .error (.invalidName name fault)].TFAE := by
  tfae_have 1 → 2 := fun bad => congrArg Prod.fst (CreateOutcome.badName fault bad).eq
  tfae_have 1 → 3 := fun bad => congrArg Prod.fst (AssignOutcome.badName fault bad).eq
  tfae_have 1 → 4 := fun bad => (LookupOutcome.badName fault bad).eq
  tfae_have 1 → 5 := fun bad => congrArg Prod.fst (RemoveOutcome.badName fault bad).eq
  tfae_have 2 → 1 := by
    intro refused
    have outcome := r.create_outcome name value
    rw [create_of_error refused] at outcome
    cases outcome with
    | badName _ bad => exact bad
  tfae_have 3 → 1 := by
    intro refused
    have outcome := r.assign_outcome name value
    rw [assign_of_error refused] at outcome
    cases outcome with
    | badName _ bad => exact bad
  tfae_have 4 → 1 := by
    intro refused
    have outcome := r.lookup_outcome name
    rw [refused] at outcome
    cases outcome with
    | badName _ bad => exact bad
  tfae_have 5 → 1 := by
    intro refused
    have outcome := r.remove_outcome name
    rw [remove_of_error refused] at outcome
    cases outcome with
    | badName _ bad => exact bad
  tfae_finish

/-- **A bad value comes next**, whatever there is to say about cells. -/
theorem badValue_tfae (r : Registry) (name : String) (value : Binary64) :
    [Name.fault? name = none ∧ ¬ r.Admits value,
      (r.create name value).1 = .error (.nonFiniteValue name value),
      (r.assign name value).1 = .error (.nonFiniteValue name value)].TFAE := by
  tfae_have 1 → 2 := fun ⟨good, refused⟩ =>
    congrArg Prod.fst (CreateOutcome.badValue good refused).eq
  tfae_have 1 → 3 := fun ⟨good, refused⟩ =>
    congrArg Prod.fst (AssignOutcome.badValue good refused).eq
  tfae_have 2 → 1 := by
    intro refused
    have outcome := r.create_outcome name value
    rw [create_of_error refused] at outcome
    cases outcome with
    | badValue good notAdmitted => exact ⟨good, notAdmitted⟩
  tfae_have 3 → 1 := by
    intro refused
    have outcome := r.assign_outcome name value
    rw [assign_of_error refused] at outcome
    cases outcome with
    | badValue good notAdmitted => exact ⟨good, notAdmitted⟩
  tfae_finish

/-- A name that is taken is created once more, or refused as a duplicate, be there room or not. -/
theorem create_of_taken {cell : Cell} (good : Name.fault? name = none) (admitted : r.Admits value)
    (taken : r.get? name = some cell) :
    r.create name value =
      match r.config.redefinition with
      | .overwrite => (.ok (.redefined cell.value), r.put name (cell.write value .redefined))
      | .reject => (.error (.duplicateCellName name), r) := by
  cases policy : r.config.redefinition with
  | overwrite => exact (CreateOutcome.redefined good admitted cell taken policy).eq
  | reject => exact (CreateOutcome.duplicate good admitted cell taken policy).eq

/-- A new name is refused iff as many cells are there as there may be. -/
theorem create_of_free (capacity : r.size ≤ r.config.maxCells) (good : Name.fault? name = none)
    (admitted : r.Admits value) (free : r.get? name = none) :
    r.create name value =
      if r.size = r.config.maxCells then (.error (.capacityExceeded name r.config.maxCells), r)
      else (.ok .inserted, r.put name (Cell.create name value)) := by
  split
  · next full => exact (CreateOutcome.full good admitted free (Nat.le_of_eq full.symm)).eq
  · next room =>
    exact (CreateOutcome.inserted good admitted free (Nat.lt_of_le_of_ne capacity room)).eq

end Registry

/-- **What every operation on a cell comes to.**  In every registry that was made by operations, for
every string and every double:

* All four operations fail because of the name iff it is not well formed, with its first fault.
* With a well-formed name, a creation and an assignment fail because of the value iff it is not
  finite and the policy takes finite values only.
* If nothing of this is wrong and the cell is there, it is found, removed or assigned, and a
  creation gives it a new value or is refused as a duplicate, as the policy says.  A cell that is
  assigned or created once more has the value, one more revision and the kind of the change.
* If nothing of this is wrong and the cell is not there, it is not found, and a creation makes it,
  unless the registry holds as many cells as it may.  A new cell has the value and its first
  revision.
* A new cell counts, a cell that is created once more does not, and one that is removed counts no
  more.
* An operation that fails leaves the registry as it was. -/
theorem outcome_of_operation {config : EngineConfig} {r : Registry}
    (reachable : r.Reachable config) (name : String) (value : Binary64) :
    let good := Name.fault? name = none
    let admitted := value.isFinite = true ∨ config.allowNonFinite = true
    (∀ fault,
      [Name.fault? name = some fault,
        (r.create name value).1 = .error (.invalidName name fault),
        (r.assign name value).1 = .error (.invalidName name fault),
        r.lookup name = .error (.invalidName name fault),
        (r.remove name).1 = .error (.invalidName name fault)].TFAE) ∧
    [good ∧ ¬ admitted,
      (r.create name value).1 = .error (.nonFiniteValue name value),
      (r.assign name value).1 = .error (.nonFiniteValue name value)].TFAE ∧
    (∀ cell, good → r.get? name = some cell →
      r.lookup name = .ok cell ∧
      r.remove name = (.ok cell.value, r.erase name) ∧
      (admitted →
        r.assign name value =
          (.ok cell.value, r.put name { cell with
            value := value, revision := cell.revision + 1, lastChange := .assigned }) ∧
        r.create name value =
          match config.redefinition with
          | .overwrite =>
            (.ok (.redefined cell.value), r.put name { cell with
              value := value, revision := cell.revision + 1, lastChange := .redefined })
          | .reject => (.error (.duplicateCellName name), r))) ∧
    (good → r.get? name = none →
      r.lookup name = .error (.cellNotFound name) ∧
      r.remove name = (.error (.cellNotFound name), r) ∧
      (admitted →
        r.assign name value = (.error (.cellNotFound name), r) ∧
        r.create name value =
          if r.size = config.maxCells then (.error (.capacityExceeded name config.maxCells), r)
          else (.ok .inserted, r.put name ⟨name, .value, value, 1, .created⟩))) ∧
    (∀ write next, r.create name value = (.ok write, next) →
      next.size = r.size + if write = .inserted then 1 else 0) ∧
    (∀ previous next, r.remove name = (.ok previous, next) → next.size + 1 = r.size) ∧
    ∀ e,
      ((r.create name value).1 = .error e → (r.create name value).2 = r) ∧
      ((r.assign name value).1 = .error e → (r.assign name value).2 = r) ∧
      ((r.remove name).1 = .error e → (r.remove name).2 = r) := by
  intro good admitted
  have sound := reachable.sound
  obtain rfl := sound.config_eq
  have admits_iff : admitted ↔ r.Admits value := or_comm
  refine ⟨r.badName_tfae name value, ?_, ?_, ?_, fun _ _ => Registry.size_of_create,
    fun _ _ => Registry.size_of_remove, fun e => ⟨?_, ?_, ?_⟩⟩
  · rw [admits_iff]
    exact r.badValue_tfae name value
  · intro cell good taken
    refine ⟨Registry.lookup_eq_ok good taken,
      (Registry.RemoveOutcome.removed good cell taken).eq, ?_⟩
    intro admitted
    have admits := admits_iff.mp admitted
    exact ⟨(Registry.AssignOutcome.assigned good admits cell taken).eq,
      Registry.create_of_taken good admits taken⟩
  · intro good free
    refine ⟨(Registry.LookupOutcome.absent good free).eq,
      (Registry.RemoveOutcome.absent good free).eq, ?_⟩
    intro admitted
    have admits := admits_iff.mp admitted
    exact ⟨(Registry.AssignOutcome.absent good admits free).eq,
      Registry.create_of_free sound.capacity good admits free⟩
  · exact fun refused => congrArg Prod.snd (Registry.create_of_error refused)
  · exact fun refused => congrArg Prod.snd (Registry.assign_of_error refused)
  · exact fun refused => congrArg Prod.snd (Registry.remove_of_error refused)

/-- In a full engine that rejects redefinitions: a NaN under a bad name is refused for the name, a
NaN under a new name for the value, the taken name as a duplicate and only then a new name for lack
of room. -/
theorem outcome_of_operation_full :
    let config : EngineConfig := { redefinition := .reject, maxCells := 1 }
    let r := ((Engine.new config).run [.create "a" ⟨1⟩]).2.registry
    (r.create " b" (Binary64.nan false)).1 = .error (.invalidName " b" .surroundingBlank) ∧
      (r.create "b" (Binary64.nan false)).1 =
        .error (.nonFiniteValue "b" (Binary64.nan false)) ∧
      r.create "a" ⟨2⟩ = (.error (.duplicateCellName "a"), r) ∧
      r.create "b" ⟨2⟩ = (.error (.capacityExceeded "b" 1), r) := by
  intro config r
  have reachable := Registry.reachable_run config [.create "a" ⟨1⟩]
  have taken : r.get? "a" = some (Cell.create "a" ⟨1⟩) := rfl
  obtain ⟨names, -⟩ := outcome_of_operation reachable " b" (Binary64.nan false)
  obtain ⟨-, values, -⟩ := outcome_of_operation reachable "b" (Binary64.nan false)
  obtain ⟨-, -, present, -⟩ := outcome_of_operation reachable "a" ⟨2⟩
  obtain ⟨-, -, -, absent, -⟩ := outcome_of_operation reachable "b" ⟨2⟩
  have bad : Name.fault? " b" = some .surroundingBlank := by decide
  refine ⟨((names .surroundingBlank).out 0 1).mp bad, (values.out 0 1).mp (by decide), ?_, ?_⟩
  · exact ((present _ (by decide) taken).2.2 (.inl (by decide))).2
  · exact ((absent (by decide) rfl).2.2 (.inl (by decide))).2

end NamedCells
