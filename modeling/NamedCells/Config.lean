/-!
# Engine configuration

The policy of an engine, fixed when it is made: what creating an existing cell does, which values
cells may hold, and how many cells there may be.

## Main definitions

* `EngineConfig` — the policy; every field has a default.
* `EngineConfig.fault?` — why no engine can be made with a policy.
-/

namespace NamedCells

/-- What creating a cell does whose name is taken. -/
inductive Redefinition where
  /-- The cell takes the new value, and the caller is told. -/
  | overwrite
  /-- The creation is refused. -/
  | reject
  deriving DecidableEq, Repr, Inhabited

/-- How many cells an engine may hold unless told otherwise. -/
def defaultMaxCells : Nat := 50000

/-- The policy of an engine. -/
structure EngineConfig where
  /-- What creating a cell does whose name is taken. -/
  redefinition : Redefinition := .overwrite
  /-- Whether cells may hold infinities and NaNs. -/
  allowNonFinite : Bool := false
  /-- How many cells there may be at most. -/
  maxCells : Nat := defaultMaxCells
  deriving DecidableEq, Repr, Inhabited

/-- Why no engine can be made with a policy. -/
inductive ConfigFault where
  /-- There is no room for any cell. -/
  | zeroCapacity
  deriving DecidableEq, Repr

/-- The fault in words. -/
def ConfigFault.message : ConfigFault → String
  | .zeroCapacity => "max_cells must be at least 1"

/-- The fault of a policy, if it has one. -/
def EngineConfig.fault? (config : EngineConfig) : Option ConfigFault :=
  if config.maxCells = 0 then some .zeroCapacity else none

/-- A policy is sound iff it leaves room for a cell. -/
theorem EngineConfig.fault?_eq_none_iff {config : EngineConfig} :
    config.fault? = none ↔ 1 ≤ config.maxCells := by
  unfold EngineConfig.fault?
  split <;> simp <;> omega

end NamedCells
