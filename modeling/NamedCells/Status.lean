/-!
# Statuses

Every operation ends with a status, which callers see as a name or as a numeric code.  Codes from
100 concern cells, those from 200 storage, those from 1000 the call itself.

## Main definitions

* `Status` — how an operation ended.
* `Status.code`, `Status.ofCode?` — the numeric code and back.
* `Status.describe` — the text for a code, also for a code of no status.
-/

namespace NamedCells

/-- How an operation ended. -/
inductive Status where
  | ok
  | invalidName
  | invalidValue
  | cellNotFound
  | duplicateCellName
  | allocationFailed
  | invalidEngineHandle
  | invalidArgument
  | internal
  deriving DecidableEq, Repr

namespace Status

/-- All statuses, in ascending order of their codes. -/
def all : List Status :=
  [.ok, .invalidName, .invalidValue, .cellNotFound, .duplicateCellName, .allocationFailed,
    .invalidEngineHandle, .invalidArgument, .internal]

/-- Whether the operation ended without anything to report. -/
def isOk (s : Status) : Bool := s = .ok

/-- The numeric code. -/
def code : Status → Int
  | .ok => 0
  | .invalidName => 100
  | .invalidValue => 101
  | .cellNotFound => 102
  | .duplicateCellName => 103
  | .allocationFailed => 200
  | .invalidEngineHandle => 1000
  | .invalidArgument => 1001
  | .internal => 1002

/-- The status with a code, if there is one. -/
def ofCode? (code : Int) : Option Status := all.find? fun s => s.code = code

/-- The short name by which a status is reported. -/
def name : Status → String
  | .ok => "OK"
  | .invalidName => "InvalidName"
  | .invalidValue => "InvalidValue"
  | .cellNotFound => "CellNotFound"
  | .duplicateCellName => "DuplicateCellName"
  | .allocationFailed => "AllocationFailed"
  | .invalidEngineHandle => "InvalidEngineHandle"
  | .invalidArgument => "InvalidArgument"
  | .internal => "Internal"

/-- A status in words. -/
def description : Status → String
  | .ok => "no error"
  | .invalidName => "cell name is empty or malformed"
  | .invalidValue => "cell value is not a finite number"
  | .cellNotFound => "cell does not exist"
  | .duplicateCellName => "a cell with this name already exists"
  | .allocationFailed => "could not allocate storage"
  | .invalidEngineHandle => "engine handle is null, unknown or destroyed"
  | .invalidArgument => "invalid argument"
  | .internal => "internal engine error"

/-- The description of the status with a code. -/
def describe (code : Int) : String :=
  match ofCode? code with
  | some s => s.description
  | none => "unknown error code"

theorem mem_all (s : Status) : s ∈ all := by cases s <;> decide

/-- Every status is found by its code. -/
@[simp] theorem ofCode?_code (s : Status) : ofCode? s.code = some s := by cases s <;> rfl

/-- Codes tell statuses apart. -/
theorem code_injective {s t : Status} (h : s.code = t.code) : s = t := by
  have found : ofCode? s.code = ofCode? t.code := by rw [h]
  simpa using found

end Status

end NamedCells
