import Mathlib.Data.Set.Card
import NamedCells.Proofs.History
import NamedCells.Proofs.Presence

/-!
# Engines after a reset

After a reset an engine cannot be told from a new one with the same policy, whatever happened to it
before and whatever is done with it afterwards.  A caller sees of an engine the answers to
operations, and after each of them the latest status and message, the number of cells and their
names; that is what is recorded here of a run.

A new engine has room for as many cells as its policy allows: any cells with different names that
are fit to be stored can be created, up to that number, and each of them begins with its first
revision.

## Main definitions

* `Observation`, `Engine.observe` — what a caller sees of an operation, and of a run.
* `Operation.creations` — the creations of cells with given names and values.
* `Engine.CanHold` — all of these cells fit in.

## Main results

* `Engine.after_reset` — a reset leaves a new engine.
* `Engine.ncard_present` — the size is the number of names that are present.
* `Engine.run_creations` — cells that fit in can be created, one after the other.
* `reset_like_new` — **a reset engine cannot be told from a new one.**
-/

namespace NamedCells

/-- What a caller sees of an operation: the answer, and what the engine says afterwards. -/
structure Observation where
  /-- The answer to the operation. -/
  answer : Answer
  /-- The latest status. -/
  lastStatus : Status
  /-- The latest message. -/
  lastError : String
  /-- The number of cells. -/
  size : Nat
  /-- The names of all cells. -/
  names : List String

/-- What a caller sees of a run. -/
def Engine.observe (g : Engine) : List Operation → List Observation
  | [] => []
  | op :: ops =>
    let (answer, g) := g.perform op
    ⟨answer, g.lastStatus, g.lastError, g.size, g.names⟩ :: g.observe ops

/-- The creations of cells with given names and values. -/
def Operation.creations (cells : List (String × Binary64)) : List Operation :=
  cells.map fun (name, value) => .create name value

namespace Engine

variable {g : Engine} {name : String} {value : Binary64}

/-! ### Resets -/

/-- A reset leaves a new engine with the same policy. -/
theorem after_reset (g : Engine) : (g.perform .reset).2 = new g.registry.config := rfl

/-- No name is counted twice, and none that is present is left out. -/
theorem ncard_present (g : Engine) : {name | g.contains name = true}.ncard = g.size := by
  have distinct : g.names.Nodup := g.registry.names_ascending.imp fun before => before.ne
  have present : {name | g.contains name = true} = (g.names.toFinset : Set String) := by
    ext name
    rw [Finset.mem_coe, List.mem_toFinset]
    exact Registry.mem_names.symm
  rw [present, Set.ncard_coe_finset, List.toFinset_card_of_nodup distinct]
  exact g.registry.length_names

/-! ### Room for as many cells as the policy allows -/

/-- The cells with these names and values can be created one after the other: the names are
different, well formed and free, the values are admitted, and there is room for all of them. -/
structure CanHold (g : Engine) (cells : List (String × Binary64)) : Prop where
  distinct : (cells.map Prod.fst).Nodup
  fit : ∀ c ∈ cells, Name.fault? c.1 = none ∧ g.registry.Admits c.2
  free : ∀ c ∈ cells, g.registry.get? c.1 = none
  room : g.size + cells.length ≤ g.registry.config.maxCells

namespace CanHold

variable {cells : List (String × Binary64)}

/-- The names of the other cells are different from the first one. -/
theorem apart (can : g.CanHold ((name, value) :: cells)) {c : String × Binary64}
    (mem : c ∈ cells) : c.1 ≠ name := by
  rintro rfl
  have head : c.1 ∉ cells.map Prod.fst := (List.nodup_cons.mp can.distinct).1
  exact head (List.mem_map.mpr ⟨c, mem, rfl⟩)

/-- The first cell is created. -/
theorem perform_create (can : g.CanHold ((name, value) :: cells)) :
    g.perform (.create name value) =
      (.ok (.write .inserted), ⟨g.registry.put name (Cell.create name value), .clear⟩) := by
  obtain ⟨good, admitted⟩ := can.fit (name, value) List.mem_cons_self
  have free : g.registry.get? name = none := can.free (name, value) List.mem_cons_self
  have room : g.registry.size < g.registry.config.maxCells := by
    have all := can.room
    rw [List.length_cons] at all
    change g.registry.size + _ ≤ _ at all
    omega
  simp only [perform, create, (Registry.CreateOutcome.inserted good admitted free room).eq]
  rfl

/-- Then there is one cell less to create, and one place less. -/
theorem tail (can : g.CanHold ((name, value) :: cells)) :
    (g.perform (.create name value)).2.CanHold cells := by
  rw [can.perform_create]
  refine ⟨(List.nodup_cons.mp can.distinct).2,
    fun c mem => can.fit c (List.mem_cons_of_mem _ mem), ?_, ?_⟩
  · intro c mem
    rw [Registry.get?_put, if_neg (can.apart mem).symm]
    exact can.free c (List.mem_cons_of_mem _ mem)
  · have free : g.registry.get? name = none := can.free (name, value) List.mem_cons_self
    calc (g.registry.put name (Cell.create name value)).size + cells.length
        = g.registry.size + 1 + cells.length := by rw [Registry.size_put_of_eq_none free]
      _ = g.registry.size + (cells.length + 1) := by omega
      _ ≤ g.registry.config.maxCells := can.room

end CanHold

/-- Operations on other cells leave a cell alone. -/
theorem get?_run_of_other {ops : List Operation}
    (others : ∀ op ∈ ops, ∃ other, op.name? = some other ∧ other ≠ name) :
    (g.run ops).2.registry.get? name = g.registry.get? name := by
  induction ops generalizing g with
  | nil => rfl
  | cons op ops ih =>
    obtain ⟨other, about, apart⟩ := others op List.mem_cons_self
    have rest := ih (g := (g.perform op).2) fun op' mem => others op' (List.mem_cons_of_mem op mem)
    rw [run_cons, rest]
    exact g.get?_perform_of_other about apart

/-- **Cells that fit in can be created**, one after the other, and are then found as created. -/
theorem run_creations {cells : List (String × Binary64)} (can : g.CanHold cells) :
    (g.run (Operation.creations cells)).1 = cells.map (fun _ => .ok (.write .inserted)) ∧
      ∀ c ∈ cells, (g.run (Operation.creations cells)).2.registry.get? c.1 =
        some (Cell.create c.1 c.2) := by
  induction cells generalizing g with
  | nil => exact ⟨rfl, by simp⟩
  | cons c cells ih =>
    obtain ⟨name, value⟩ := c
    obtain ⟨answers, found⟩ := ih can.tail
    have first : Operation.creations ((name, value) :: cells) =
        .create name value :: Operation.creations cells := rfl
    rw [first, run_cons]
    refine ⟨by rw [answers, can.perform_create, List.map_cons], ?_⟩
    intro c mem
    rcases List.mem_cons.mp mem with rfl | later
    · -- the first cell is not touched by the creations of the others
      have others : ∀ op ∈ Operation.creations cells, ∃ m, op.name? = some m ∧ m ≠ name := by
        intro op mem
        obtain ⟨d, inCells, rfl⟩ := List.mem_map.mp mem
        exact ⟨d.1, rfl, can.apart inCells⟩
      rw [get?_run_of_other others, can.perform_create, Registry.get?_put_self]
    · exact found c later

end Engine

/-- **A reset engine cannot be told from a new one.**  Let an engine be made with an accepted policy
and be reset after any operations.

* The reset answers with the number of names that were present.
* Whatever is done afterwards, a caller sees exactly what is seen of a new engine with the same
  policy, operation by operation.
* Nothing is left of an earlier failure, nor of any cell.
* There is room again for as many cells as the policy allows: creations of that many cells with
  different well-formed names and admitted values are all answered as insertions, and each of these
  cells has the first revision. -/
theorem reset_like_new {config : EngineConfig} {fresh : Engine}
    (accepted : Engine.make config = .ok fresh) (ops : List Operation) :
    let before := (fresh.run ops).2
    let after := (before.perform .reset).2
    (before.perform .reset).1 = .ok (.count {name | before.contains name = true}.ncard) ∧
    (∀ later : List Operation, after.observe later = fresh.observe later) ∧
    (after.lastStatus = .ok ∧ after.lastError = "" ∧ after.size = 0 ∧ after.names = []) ∧
    ∀ cells : List (String × Binary64), (cells.map Prod.fst).Nodup →
      (∀ c ∈ cells, Name.fault? c.1 = none ∧
        (config.allowNonFinite = true ∨ c.2.isFinite = true)) →
      cells.length ≤ config.maxCells →
      let (answers, filled) := after.run (Operation.creations cells)
      answers = cells.map (fun _ => .ok (.write .inserted)) ∧
        ∀ c ∈ cells, (filled.cell c.1).1 =
          .ok { name := c.1, kind := .value, value := c.2, revision := 1,
                lastChange := .created } := by
  intro before after
  obtain rfl : fresh = Engine.new config := by
    unfold Engine.make at accepted
    split at accepted
    · cases accepted
    · exact (Except.ok.inj accepted).symm
  have same : after = Engine.new config := by
    have policy : before.registry.config = config := (Engine.sound_run config ops).config_eq
    rw [← policy]
    exact before.after_reset
  refine ⟨?_, fun later => by rw [same], ?_, ?_⟩
  · rw [before.ncard_present]
    rfl
  · rw [same]
    exact ⟨rfl, rfl, Registry.size_empty config, Registry.names_empty config⟩
  · intro cells distinct fit few
    rw [same]
    have none : (Engine.new config).size = 0 := Registry.size_empty config
    have can : (Engine.new config).CanHold cells := by
      refine ⟨distinct, fit, fun c _ => Registry.get?_empty config c.1, ?_⟩
      rw [none, Nat.zero_add]
      exact few
    obtain ⟨answers, found⟩ := Engine.run_creations can
    refine ⟨answers, fun c mem => ?_⟩
    exact Registry.lookup_eq_ok (fit c mem).1 (found c mem)

/-- A full engine that rejects redefinitions has refused a third cell.  After the reset a name may
be taken once more, and the cell that was refused finds room. -/
theorem reset_like_new_full :
    let config : EngineConfig := { redefinition := .reject, maxCells := 2 }
    let before := ((Engine.new config).run
      [.create "a" ⟨1⟩, .set "a" ⟨2⟩, .create "b" ⟨3⟩, .create "c" ⟨4⟩]).2
    let after := (before.perform .reset).2
    let later : List Operation := [.get "b", .create "a" ⟨5⟩, .names, .create "a" ⟨6⟩]
    before.lastStatus = .allocationFailed ∧ {name | before.contains name = true}.ncard = 2 ∧
      after.lastError = "" ∧ after.observe later = (Engine.new config).observe later ∧
      (after.run [.create "c" ⟨4⟩, .create "a" ⟨0⟩]).1 =
        [.ok (.write .inserted), .ok (.write .inserted)] ∧
      ((after.run [.create "c" ⟨4⟩, .create "a" ⟨0⟩]).2.cell "a").1 =
        .ok ⟨"a", .value, ⟨0⟩, 1, .created⟩ := by
  intro config before after later
  have accepted : Engine.make config = .ok (Engine.new config) := rfl
  obtain ⟨removed, same, ⟨-, silent, -⟩, fill⟩ := reset_like_new accepted
    [.create "a" ⟨1⟩, .set "a" ⟨2⟩, .create "b" ⟨3⟩, .create "c" ⟨4⟩]
  have two : (before.perform .reset).1 = .ok (.count 2) := rfl
  have count : {name | before.contains name = true}.ncard = 2 :=
    Reply.count.inj (Except.ok.inj (removed.symm.trans two))
  have fit : ∀ c ∈ [("c", (⟨4⟩ : Binary64)), ("a", ⟨0⟩)], Name.fault? c.1 = none ∧
      (config.allowNonFinite = true ∨ c.2.isFinite = true) := by
    decide
  obtain ⟨answers, found⟩ := fill [("c", ⟨4⟩), ("a", ⟨0⟩)] (by decide) fit (by decide)
  exact ⟨rfl, count, silent, same later, answers, found ("a", ⟨0⟩) (by simp)⟩

end NamedCells
