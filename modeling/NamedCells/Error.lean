import NamedCells.Binary64.Shortest
import NamedCells.Name
import NamedCells.Status

/-!
# Errors of an engine

The reasons for which an engine refuses an operation.  Each has a status, under which callers see
it, and a message, in which names are quoted so that no name can be taken for a part of the
message.

## Main definitions

* `EngineError` — a reason for a refusal.
* `EngineError.status`, `EngineError.message` — what callers see of it.
-/

namespace NamedCells

/-- A reason for which an engine refuses an operation. -/
inductive EngineError where
  /-- The name is not well formed. -/
  | invalidName (name : String) (fault : NameFault)
  /-- The value is infinite or NaN and the engine takes finite values only. -/
  | nonFiniteValue (name : String) (value : Binary64)
  /-- No cell has the name. -/
  | cellNotFound (name : String)
  /-- A cell has the name already and the engine does not redefine cells. -/
  | duplicateCellName (name : String)
  /-- The engine holds as many cells as it may. -/
  | capacityExceeded (name : String) (limit : Nat)
  /-- There is no memory for the cell. -/
  | allocationFailed (name : String)
  /-- An argument other than a name or a value cannot be used. -/
  | invalidArgument (text : String)
  /-- The engine itself failed. -/
  | internal (text : String)
  deriving DecidableEq, Repr

namespace EngineError

/-- The status under which an error is reported.  A full engine and a lack of memory share one. -/
def status : EngineError → Status
  | .invalidName .. => .invalidName
  | .nonFiniteValue .. => .invalidValue
  | .cellNotFound _ => .cellNotFound
  | .duplicateCellName _ => .duplicateCellName
  | .capacityExceeded .. => .allocationFailed
  | .allocationFailed _ => .allocationFailed
  | .invalidArgument _ => .invalidArgument
  | .internal _ => .internal

/-- An error in words. -/
def message : EngineError → String
  | .invalidName name fault =>
    "invalid cell name " ++ Text.quote name ++ ": " ++ fault.message
  | .nonFiniteValue name value =>
    "cell " ++ Text.quote name ++ " cannot hold non-finite value " ++ value.text
  | .cellNotFound name => "cell " ++ Text.quote name ++ " does not exist"
  | .duplicateCellName name => "cell " ++ Text.quote name ++ " already exists"
  | .capacityExceeded name limit =>
    s!"cell limit of {limit} reached, cannot create " ++ Text.quote name
  | .allocationFailed name => "out of memory while storing cell " ++ Text.quote name
  | .invalidArgument text => "invalid argument: " ++ text
  | .internal text => "internal error: " ++ text

/-- No error goes under the status of success. -/
theorem status_ne_ok (e : EngineError) : e.status ≠ .ok := by
  cases e <;> simp [status]

end EngineError

end NamedCells
