import NamedCells.Registry

/-!
# Outcomes of the operations on a registry

Each operation on a registry checks several things in a fixed order.  For each of them this file
says once and for all which outcomes there are: a case of `CreateOutcome` holds everything that is
known when a creation ends that way, the checks that were passed and the registry that is left
included.  Whatever is proved about registries afterwards is proved by cases on an outcome and never
opens an operation.

An operation that is refused leaves the registry that it found.  Nothing in the type of an operation
says so; it holds because every step that can fail comes before the one step that changes a cell,
and is found here refusal by refusal.

## Main definitions

* `Registry.Admits r value` — the policy of `r` takes `value`.
* `Registry.CreateOutcome`, `Registry.AssignOutcome`, `Registry.LookupOutcome`,
  `Registry.RemoveOutcome` — what an operation can come to, and under which conditions.

## Main results

* `Registry.create_outcome`, `Registry.assign_outcome`, `Registry.lookup_outcome`,
  `Registry.remove_outcome` — every operation comes to one of its outcomes.
* `Registry.CreateOutcome.eq`, `Registry.AssignOutcome.eq`, `Registry.LookupOutcome.eq`,
  `Registry.RemoveOutcome.eq` — and where the conditions of an outcome hold, to no other.
* `Registry.create_of_error`, `Registry.assign_of_error`, `Registry.remove_of_error` — **a refused
  operation leaves the registry as it was.**
-/

namespace NamedCells

namespace Registry

/-- The policy of a registry takes a value. -/
def Admits (r : Registry) (value : Binary64) : Prop :=
  r.config.allowNonFinite = true ∨ value.isFinite = true

instance (r : Registry) (value : Binary64) : Decidable (r.Admits value) :=
  inferInstanceAs (Decidable (_ ∨ _))

/-! ### The checks in front of an operation -/

variable {α : Type}

/-- What follows the check of a name is done iff the name is well formed. -/
theorem checkName_bind (name : String) (next : Unit → Except EngineError α) :
    (checkName name >>= next) =
      match Name.fault? name with
      | some fault => .error (.invalidName name fault)
      | none => next () := by
  unfold checkName
  cases Name.fault? name <;> rfl

/-- A change that begins with the check of a name goes on iff the name is well formed. -/
theorem update_checkName_bind (r : Registry) (name : String) (next : Unit → Update α) :
    r.update ((liftM (checkName name) : Update Unit) >>= next) =
      match Name.fault? name with
      | some fault => (.error (.invalidName name fault), r)
      | none => r.update (next ()) := by
  rw [update_check_bind, checkName]
  cases Name.fault? name <;> rfl

/-- A change that begins with the check of a value goes on iff the policy takes the value. -/
theorem update_checkValue_bind (r s : Registry) (name : String) (value : Binary64)
    (next : Unit → Update α) :
    r.update ((liftM (s.checkValue name value) : Update Unit) >>= next) =
      if s.Admits value then r.update (next ()) else (.error (.nonFiniteValue name value), r) := by
  rw [update_check_bind, checkValue]
  by_cases admitted : s.Admits value
  · have taken : (s.config.allowNonFinite || value.isFinite) = true := by
      simpa [Admits] using admitted
    rw [if_pos taken, if_pos admitted]
  · have refused : ¬ (s.config.allowNonFinite || value.isFinite) = true := by
      simpa [Admits] using admitted
    rw [if_neg refused, if_neg admitted]

/-! ### Outcomes -/

/-- What a creation can come to. -/
inductive CreateOutcome (r : Registry) (name : String) (value : Binary64) :
    Except EngineError Write × Registry → Prop
  /-- The name is not well formed. -/
  | badName (fault : NameFault) (bad : Name.fault? name = some fault) :
    CreateOutcome r name value (.error (.invalidName name fault), r)
  /-- The policy does not take the value. -/
  | badValue (good : Name.fault? name = none) (refused : ¬ r.Admits value) :
    CreateOutcome r name value (.error (.nonFiniteValue name value), r)
  /-- The name was taken and the cell has the value now. -/
  | redefined (good : Name.fault? name = none) (admitted : r.Admits value) (cell : Cell)
    (taken : r.get? name = some cell) (policy : r.config.redefinition = .overwrite) :
    CreateOutcome r name value
      (.ok (.redefined cell.value), r.put name (cell.write value .redefined))
  /-- The name is taken and the policy keeps the cell. -/
  | duplicate (good : Name.fault? name = none) (admitted : r.Admits value) (cell : Cell)
    (taken : r.get? name = some cell) (policy : r.config.redefinition = .reject) :
    CreateOutcome r name value (.error (.duplicateCellName name), r)
  /-- The name is free and there is no room. -/
  | full (good : Name.fault? name = none) (admitted : r.Admits value) (free : r.get? name = none)
    (noRoom : r.config.maxCells ≤ r.size) :
    CreateOutcome r name value (.error (.capacityExceeded name r.config.maxCells), r)
  /-- The name was free and there is a new cell. -/
  | inserted (good : Name.fault? name = none) (admitted : r.Admits value)
    (free : r.get? name = none) (room : r.size < r.config.maxCells) :
    CreateOutcome r name value (.ok .inserted, r.put name (Cell.create name value))

/-- What an assignment can come to. -/
inductive AssignOutcome (r : Registry) (name : String) (value : Binary64) :
    Except EngineError Binary64 × Registry → Prop
  /-- The name is not well formed. -/
  | badName (fault : NameFault) (bad : Name.fault? name = some fault) :
    AssignOutcome r name value (.error (.invalidName name fault), r)
  /-- The policy does not take the value. -/
  | badValue (good : Name.fault? name = none) (refused : ¬ r.Admits value) :
    AssignOutcome r name value (.error (.nonFiniteValue name value), r)
  /-- There is no cell. -/
  | absent (good : Name.fault? name = none) (admitted : r.Admits value)
    (free : r.get? name = none) : AssignOutcome r name value (.error (.cellNotFound name), r)
  /-- The cell has the value now. -/
  | assigned (good : Name.fault? name = none) (admitted : r.Admits value) (cell : Cell)
    (taken : r.get? name = some cell) :
    AssignOutcome r name value (.ok cell.value, r.put name (cell.write value .assigned))

/-- What a look-up can come to. -/
inductive LookupOutcome (r : Registry) (name : String) : Except EngineError Cell → Prop
  /-- The name is not well formed. -/
  | badName (fault : NameFault) (bad : Name.fault? name = some fault) :
    LookupOutcome r name (.error (.invalidName name fault))
  /-- There is no cell. -/
  | absent (good : Name.fault? name = none) (free : r.get? name = none) :
    LookupOutcome r name (.error (.cellNotFound name))
  /-- The cell was found. -/
  | found (good : Name.fault? name = none) (cell : Cell) (taken : r.get? name = some cell) :
    LookupOutcome r name (.ok cell)

/-- What a removal can come to. -/
inductive RemoveOutcome (r : Registry) (name : String) :
    Except EngineError Binary64 × Registry → Prop
  /-- The name is not well formed. -/
  | badName (fault : NameFault) (bad : Name.fault? name = some fault) :
    RemoveOutcome r name (.error (.invalidName name fault), r)
  /-- There is no cell. -/
  | absent (good : Name.fault? name = none) (free : r.get? name = none) :
    RemoveOutcome r name (.error (.cellNotFound name), r)
  /-- The cell was taken out. -/
  | removed (good : Name.fault? name = none) (cell : Cell) (taken : r.get? name = some cell) :
    RemoveOutcome r name (.ok cell.value, r.erase name)

/-! ### Every operation comes to one of its outcomes -/

theorem create_outcome (r : Registry) (name : String) (value : Binary64) :
    CreateOutcome r name value (r.create name value) := by
  unfold create
  rw [update_checkName_bind]
  simp only [update_get_bind, update_checkValue_bind]
  cases good : Name.fault? name with
  | some fault => exact .badName fault good
  | none =>
    by_cases admitted : r.Admits value
    · simp only [if_pos admitted]
      cases taken : r.get? name with
      | some cell =>
        cases policy : r.config.redefinition with
        | overwrite =>
          simp only [update_get_bind, policy, update_modify_bind, update_pure]
          exact .redefined good admitted cell taken policy
        | reject =>
          simp only [update_get_bind, policy, update_throw]
          exact .duplicate good admitted cell taken policy
      | none =>
        simp only [update_get_bind]
        by_cases room : r.config.maxCells ≤ r.size
        · simp only [if_pos room, update_throw_bind]
          exact .full good admitted taken room
        · simp only [if_neg room, update_modify_bind, update_pure]
          exact .inserted good admitted taken (Nat.lt_of_not_le room)
    · simp only [if_neg admitted]
      exact .badValue good admitted

theorem assign_outcome (r : Registry) (name : String) (value : Binary64) :
    AssignOutcome r name value (r.assign name value) := by
  unfold assign
  rw [update_checkName_bind]
  simp only [update_get_bind, update_checkValue_bind]
  cases good : Name.fault? name with
  | some fault => exact .badName fault good
  | none =>
    by_cases admitted : r.Admits value
    · simp only [if_pos admitted]
      cases taken : r.get? name with
      | some cell =>
        simp only [update_modify_bind, update_pure]
        exact .assigned good admitted cell taken
      | none => exact .absent good admitted taken
    · simp only [if_neg admitted]
      exact .badValue good admitted

theorem lookup_outcome (r : Registry) (name : String) :
    LookupOutcome r name (r.lookup name) := by
  unfold lookup
  rw [checkName_bind]
  cases good : Name.fault? name with
  | some fault => exact .badName fault good
  | none =>
    cases taken : r.get? name with
    | some cell => exact .found good cell taken
    | none => exact .absent good taken

theorem remove_outcome (r : Registry) (name : String) :
    RemoveOutcome r name (r.remove name) := by
  unfold remove
  rw [update_checkName_bind]
  simp only [update_get_bind]
  cases good : Name.fault? name with
  | some fault => exact .badName fault good
  | none =>
    cases taken : r.get? name with
    | some cell =>
      simp only [update_modify_bind, update_pure]
      exact .removed good cell taken
    | none => exact .absent good taken

/-! ### Refusals

Each outcome that is an error comes with the registry that was there before. -/

variable {r : Registry} {name : String} {value : Binary64} {e : EngineError}

/-- A refused creation leaves the registry as it was. -/
theorem create_of_error (refused : (r.create name value).1 = .error e) :
    r.create name value = (.error e, r) := by
  have outcome := r.create_outcome name value
  generalize r.create name value = result at outcome refused ⊢
  cases outcome with
  | badName | badValue | duplicate | full =>
    cases refused
    rfl
  | redefined | inserted => cases refused

/-- A refused assignment leaves the registry as it was. -/
theorem assign_of_error (refused : (r.assign name value).1 = .error e) :
    r.assign name value = (.error e, r) := by
  have outcome := r.assign_outcome name value
  generalize r.assign name value = result at outcome refused ⊢
  cases outcome with
  | badName | badValue | absent =>
    cases refused
    rfl
  | assigned => cases refused

/-- A refused removal leaves the registry as it was. -/
theorem remove_of_error (refused : (r.remove name).1 = .error e) :
    r.remove name = (.error e, r) := by
  have outcome := r.remove_outcome name
  generalize r.remove name = result at outcome refused ⊢
  cases outcome with
  | badName | absent =>
    cases refused
    rfl
  | removed => cases refused

/-! ### An outcome says what an operation comes to

The conditions of an outcome are all that matters: wherever they hold, the operation comes to that
outcome and no other. -/

theorem CreateOutcome.eq {result : Except EngineError Write × Registry}
    (outcome : CreateOutcome r name value result) : r.create name value = result := by
  rw [create, update_checkName_bind]
  simp only [update_get_bind, update_checkValue_bind]
  cases outcome with
  | badName fault bad => simp only [bad]
  | badValue good refused => simp only [good, if_neg refused]
  | redefined good admitted cell taken policy =>
    simp only [good, if_pos admitted, taken, update_get_bind, policy, update_modify_bind,
      update_pure]
  | duplicate good admitted cell taken policy =>
    simp only [good, if_pos admitted, taken, update_get_bind, policy, update_throw]
  | full good admitted free noRoom =>
    simp only [good, if_pos admitted, free, update_get_bind, if_pos noRoom, update_throw_bind]
  | inserted good admitted free room =>
    simp only [good, if_pos admitted, free, update_get_bind, if_neg (Nat.not_le_of_lt room),
      update_modify_bind, update_pure]

theorem AssignOutcome.eq {result : Except EngineError Binary64 × Registry}
    (outcome : AssignOutcome r name value result) : r.assign name value = result := by
  rw [assign, update_checkName_bind]
  simp only [update_get_bind, update_checkValue_bind]
  cases outcome with
  | badName fault bad => simp only [bad]
  | badValue good refused => simp only [good, if_neg refused]
  | absent good admitted free => simp only [good, if_pos admitted, free, update_throw]
  | assigned good admitted cell taken =>
    simp only [good, if_pos admitted, taken, update_modify_bind, update_pure]

theorem LookupOutcome.eq {result : Except EngineError Cell}
    (outcome : LookupOutcome r name result) : r.lookup name = result := by
  rw [lookup, checkName_bind]
  cases outcome with
  | badName fault bad => simp only [bad]
  | absent good free => simp only [good, free]
  | found good cell taken => simp only [good, taken]

theorem RemoveOutcome.eq {result : Except EngineError Binary64 × Registry}
    (outcome : RemoveOutcome r name result) : r.remove name = result := by
  rw [remove, update_checkName_bind]
  simp only [update_get_bind]
  cases outcome with
  | badName fault bad => simp only [bad]
  | absent good free => simp only [good, free, update_throw]
  | removed good cell taken => simp only [good, taken, update_modify_bind, update_pure]

/-- A cell with a well-formed name is found. -/
theorem lookup_eq_ok {cell : Cell} (good : Name.fault? name = none)
    (taken : r.get? name = some cell) : r.lookup name = .ok cell :=
  (LookupOutcome.found good cell taken).eq

end Registry

end NamedCells
