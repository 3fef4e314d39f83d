import NamedCells.Engine
import NamedCells.Proofs.Outcomes

/-!
# Outcomes of the operations on an engine

An operation on an engine answers, may change the cells, and leaves something in the channel.  This
file says once what the three can be together: a case of `OperationOutcome` gives the answer, the
next registry and the next channel of an operation that ends that way, with the checks that were
passed.  Facts about engines are proved by cases on an outcome and never open an operation.

## Main definitions

* `Operation.canFail`, `Operation.isQuestion` — the operations that may be refused, and those that
  leave the channel alone.
* `OperationOutcome` — what an operation on an engine can come to.

## Main results

* `Engine.perform_outcome` — every operation comes to one of its outcomes.
* `Engine.run_cons` — a run by its first operation.
-/

namespace NamedCells

/-- The operations on one cell, each of which may be refused. -/
def Operation.canFail : Operation → Bool
  | .create .. | .set .. | .get _ | .cell _ | .remove _ => true
  | _ => false

/-- The questions, which are about all cells or about whether a name is taken. -/
def Operation.isQuestion : Operation → Bool
  | .contains _ | .size | .isEmpty | .names => true
  | _ => false

/-- No operation on one cell is a question. -/
theorem Operation.isQuestion_of_canFail {op : Operation} (canFail : op.canFail = true) :
    op.isQuestion = false := by
  cases op with
  | create | set | get | cell | remove => rfl
  | _ => cases canFail

/-- What an operation on an engine can come to. -/
inductive OperationOutcome (g : Engine) : Operation → Answer × Engine → Prop
  /-- It was refused, and only the channel tells. -/
  | refused (op : Operation) (e : EngineError) (canFail : op.canFail = true) :
    OperationOutcome g op (.error e, ⟨g.registry, .ofError e⟩)
  /-- There is a new cell. -/
  | inserted (name : String) (value : Binary64) (good : Name.fault? name = none)
    (admitted : g.registry.Admits value) (free : g.registry.get? name = none)
    (room : g.registry.size < g.registry.config.maxCells) :
    OperationOutcome g (.create name value)
      (.ok (.write .inserted), ⟨g.registry.put name (Cell.create name value), .clear⟩)
  /-- A cell was created once more. -/
  | redefined (name : String) (value : Binary64) (cell : Cell) (good : Name.fault? name = none)
    (admitted : g.registry.Admits value) (taken : g.registry.get? name = some cell)
    (policy : g.registry.config.redefinition = .overwrite) :
    OperationOutcome g (.create name value)
      (.ok (.write (.redefined cell.value)),
        ⟨g.registry.put name (cell.write value .redefined),
          .ofMessage .duplicateCellName (redefinitionNotice name cell.value value)⟩)
  /-- A cell was assigned a value. -/
  | assigned (name : String) (value : Binary64) (cell : Cell) (good : Name.fault? name = none)
    (admitted : g.registry.Admits value) (taken : g.registry.get? name = some cell) :
    OperationOutcome g (.set name value)
      (.ok (.value cell.value), ⟨g.registry.put name (cell.write value .assigned), .clear⟩)
  /-- A value was read. -/
  | read (name : String) (cell : Cell) (good : Name.fault? name = none)
    (taken : g.registry.get? name = some cell) :
    OperationOutcome g (.get name) (.ok (.value cell.value), ⟨g.registry, .clear⟩)
  /-- A record was read. -/
  | shown (name : String) (cell : Cell) (good : Name.fault? name = none)
    (taken : g.registry.get? name = some cell) :
    OperationOutcome g (.cell name) (.ok (.cell cell), ⟨g.registry, .clear⟩)
  /-- A cell was taken out. -/
  | removed (name : String) (cell : Cell) (good : Name.fault? name = none)
    (taken : g.registry.get? name = some cell) :
    OperationOutcome g (.remove name)
      (.ok (.value cell.value), ⟨g.registry.erase name, .clear⟩)
  /-- All cells were taken out. -/
  | emptied :
    OperationOutcome g .reset (.ok (.count g.registry.size), ⟨g.registry.clear, .clear⟩)
  /-- An error from outside is in the channel. -/
  | reported (e : EngineError) :
    OperationOutcome g (.report e) (.ok (.status e.status), ⟨g.registry, .ofError e⟩)
  /-- A question was answered. -/
  | asked (op : Operation) (reply : Reply) (question : op.isQuestion = true) :
    OperationOutcome g op (.ok reply, g)

namespace Engine

/-- **Every operation comes to one of its outcomes.** -/
theorem perform_outcome (g : Engine) (op : Operation) : OperationOutcome g op (g.perform op) := by
  cases op with
  | create name value =>
    have outcome := g.registry.create_outcome name value
    simp only [perform, create]
    generalize g.registry.create name value = result at outcome ⊢
    cases outcome with
    | inserted good admitted free room => exact .inserted name value good admitted free room
    | redefined good admitted cell taken policy =>
      exact .redefined name value cell good admitted taken policy
    | _ => exact .refused _ _ rfl
  | set name value =>
    have outcome := g.registry.assign_outcome name value
    simp only [perform, set]
    generalize g.registry.assign name value = result at outcome ⊢
    cases outcome with
    | assigned good admitted cell taken => exact .assigned name value cell good admitted taken
    | _ => exact .refused _ _ rfl
  | get name =>
    have outcome := g.registry.lookup_outcome name
    simp only [perform, get]
    generalize g.registry.lookup name = result at outcome ⊢
    cases outcome with
    | found good cell taken => exact .read name cell good taken
    | _ => exact .refused _ _ rfl
  | cell name =>
    have outcome := g.registry.lookup_outcome name
    simp only [perform, Engine.cell]
    generalize g.registry.lookup name = result at outcome ⊢
    cases outcome with
    | found good cell taken => exact .shown name cell good taken
    | _ => exact .refused _ _ rfl
  | remove name =>
    have outcome := g.registry.remove_outcome name
    simp only [perform, remove]
    generalize g.registry.remove name = result at outcome ⊢
    cases outcome with
    | removed good cell taken => exact .removed name cell good taken
    | _ => exact .refused _ _ rfl
  | reset => exact .emptied
  | report e => exact .reported e
  | contains | size | isEmpty | names => exact .asked _ _ rfl

/-! ### Runs -/

theorem run_cons (g : Engine) (op : Operation) (ops : List Operation) :
    g.run (op :: ops) =
      ((g.perform op).1 :: ((g.perform op).2.run ops).1, ((g.perform op).2.run ops).2) := rfl

end Engine

end NamedCells
