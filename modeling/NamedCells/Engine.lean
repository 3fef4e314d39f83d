import NamedCells.Channel
import NamedCells.Registry

/-!
# Engines

An engine is a registry of cells with an error channel.  Each operation answers, and leaves in the
channel what a caller that asks later is to learn about it.  Questions about the cells as a whole
leave the channel alone.

## Main definitions

* `Engine` — a registry and a channel.
* `Engine.make` — the engine with a policy, if the policy is sound.
* `Engine.create`, `Engine.set`, `Engine.get`, `Engine.cell`, `Engine.remove`, `Engine.reset`,
  `Engine.report` — the operations.
* `Operation`, `Engine.perform`, `Engine.run` — operations as values, and sequences of them.
-/

namespace NamedCells

/-- A registry of cells with an error channel. -/
structure Engine where
  /-- The cells. -/
  registry : Registry
  /-- What there is to say about the latest operation. -/
  channel : Channel

/-- What the channel says after a cell was redefined: the message of a refused creation, and how
the value changed. -/
def redefinitionNotice (name : String) (previous value : Binary64) : String :=
  (EngineError.duplicateCellName name).message ++ "; value redefined from " ++ previous.text ++
    " to " ++ value.text

namespace Engine

/-- A new engine with a policy. -/
def new (config : EngineConfig) : Engine := ⟨.empty config, .clear⟩

/-- A new engine with a policy, unless the policy is not sound. -/
def make (config : EngineConfig) : Except ConfigFault Engine :=
  match config.fault? with
  | some fault => .error fault
  | none => .ok (new config)

/-- An engine is made iff the policy leaves room for a cell, and then it is a new one. -/
theorem make_eq_ok_iff {config : EngineConfig} {g : Engine} :
    make config = .ok g ↔ 1 ≤ config.maxCells ∧ g = new config := by
  rw [← EngineConfig.fault?_eq_none_iff, make]
  cases config.fault? with
  | none => simp [eq_comm]
  | some fault => simp

/-! ### Operations -/

/-- The engine after an operation that reads the cells. -/
def afterReading {α : Type} (g : Engine) (result : Except EngineError α) :
    Except EngineError α × Engine :=
  (result, { g with channel := .ofResult result })

/-- The engine after a change of its cells.  It has the registry that the change has left, and the
channel says how the change ended. -/
def afterChange {α : Type} : Except EngineError α × Registry → Except EngineError α × Engine
  | (result, registry) => (result, ⟨registry, .ofResult result⟩)

/-- Create a cell.  A redefinition succeeds but leaves a notice in the channel. -/
def create (g : Engine) (name : String) (value : Binary64) : Except EngineError Write × Engine :=
  match g.registry.create name value with
  | (.ok .inserted, registry) => (.ok .inserted, ⟨registry, .clear⟩)
  | (.ok (.redefined previous), registry) =>
    let notice := redefinitionNotice name previous value
    (.ok (.redefined previous), ⟨registry, .ofMessage .duplicateCellName notice⟩)
  | (.error e, registry) => (.error e, ⟨registry, .ofError e⟩)

/-- Give an existing cell a new value.  The answer is the previous value. -/
def set (g : Engine) (name : String) (value : Binary64) : Except EngineError Binary64 × Engine :=
  afterChange (g.registry.assign name value)

/-- The value of a cell. -/
def get (g : Engine) (name : String) : Except EngineError Binary64 × Engine :=
  g.afterReading ((g.registry.lookup name).map Cell.value)

/-- A cell with its record. -/
def cell (g : Engine) (name : String) : Except EngineError Cell × Engine :=
  g.afterReading (g.registry.lookup name)

/-- Remove a cell.  The answer is its value. -/
def remove (g : Engine) (name : String) : Except EngineError Binary64 × Engine :=
  afterChange (g.registry.remove name)

/-- Remove all cells.  The answer is how many there were. -/
def reset (g : Engine) : Nat × Engine := (g.registry.size, ⟨g.registry.clear, .clear⟩)

/-- Leave an error in the channel that was found outside the engine. -/
def report (g : Engine) (e : EngineError) : Status × Engine :=
  (e.status, { g with channel := .ofError e })

/-! ### Questions -/

/-- Whether a cell has the name. -/
def contains (g : Engine) (name : String) : Bool := g.registry.contains name

/-- How many cells there are. -/
def size (g : Engine) : Nat := g.registry.size

/-- Whether there are no cells. -/
def isEmpty (g : Engine) : Bool := g.registry.isEmpty

/-- The names of all cells in ascending order. -/
def names (g : Engine) : List String := g.registry.names

/-- How the latest operation ended. -/
def lastStatus (g : Engine) : Status := g.channel.status

/-- What there is to say about the latest operation. -/
def lastError (g : Engine) : String := g.channel.message

end Engine

/-! ### Sequences of operations -/

/-- An operation on an engine, or a question to it, as a value. -/
inductive Operation where
  | create (name : String) (value : Binary64)
  | set (name : String) (value : Binary64)
  | get (name : String)
  | cell (name : String)
  | remove (name : String)
  | reset
  | report (error : EngineError)
  | contains (name : String)
  | size
  | isEmpty
  | names
  deriving DecidableEq, Repr

/-- What an engine answers when it does not refuse. -/
inductive Reply where
  /-- What a creation did. -/
  | write (write : Write)
  /-- The value read, replaced or removed. -/
  | value (value : Binary64)
  /-- A cell with its record. -/
  | cell (cell : Cell)
  /-- A number of cells. -/
  | count (n : Nat)
  /-- The status of a reported error. -/
  | status (status : Status)
  /-- The answer to a question of yes or no. -/
  | flag (holds : Bool)
  /-- The names of all cells. -/
  | names (names : List String)
  deriving DecidableEq, Repr

/-- The answer to an operation. -/
abbrev Answer := Except EngineError Reply

namespace Engine

/-- Perform an operation. -/
def perform (g : Engine) : Operation → Answer × Engine
  | .create name value => let (a, g) := g.create name value; (a.map .write, g)
  | .set name value => let (a, g) := g.set name value; (a.map .value, g)
  | .get name => let (a, g) := g.get name; (a.map .value, g)
  | .cell name => let (a, g) := g.cell name; (a.map .cell, g)
  | .remove name => let (a, g) := g.remove name; (a.map .value, g)
  | .reset => let (n, g) := g.reset; (.ok (.count n), g)
  | .report e => let (s, g) := g.report e; (.ok (.status s), g)
  | .contains name => (.ok (.flag (g.contains name)), g)
  | .size => (.ok (.count g.size), g)
  | .isEmpty => (.ok (.flag g.isEmpty), g)
  | .names => (.ok (.names g.names), g)

/-- Perform operations one after the other. -/
def run (g : Engine) : List Operation → List Answer × Engine
  | [] => ([], g)
  | op :: ops =>
    let (answer, g) := g.perform op
    let (answers, g) := g.run ops
    (answer :: answers, g)

end Engine

end NamedCells
