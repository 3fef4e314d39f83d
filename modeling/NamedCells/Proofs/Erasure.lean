import NamedCells.Proofs.EngineOutcomes
import NamedCells.Proofs.History
import NamedCells.Proofs.RegistryInvariant

/-!
# Runs without their invisible operations

An operation that was refused, or that only reads, is invisible to the cells: a run in which such
operations are left out, whichever and however many, answers all others as before and ends with the
same cells.

Two facts carry this along a run.  An invisible operation leaves the registry as it is, and what an
engine answers and what becomes of its registry depend on nothing but the registry, the channel
being different as soon as something was left out.

The first fact is not one about types.  A refused change hands over the registry that its steps have
made, and the engine goes on with that one; that it is the one from before was found refusal by
refusal where the outcomes of the operations on a registry were told apart.

## Main definitions

* `Operation.isReading`, `Event.Invisible` — what leaves no trace in the cells.
* `List.without` — a list without what stands at some positions.

## Main results

* `Engine.perform_of_error` — a refused operation changes the channel only.
* `Engine.registry_perform_of_invisible` — an invisible operation leaves the registry alone.
* `Engine.answer_congr` — answers depend on the registry only.
* `run_without_invisible` — **invisible operations can be left out of a run.**
-/

/-- The list without what stands at the positions that are erased. -/
def List.without {α : Type} (erased : Nat → Bool) : List α → List α
  | [] => []
  | x :: xs =>
    let rest := xs.without fun i => erased (i + 1)
    if erased 0 then rest else x :: rest

namespace List

variable {α : Type} {erased : Nat → Bool} {x : α} {xs : List α}

theorem without_cons_erased (h : erased 0 = true) :
    (x :: xs).without erased = xs.without fun i => erased (i + 1) := by
  rw [without]
  exact if_pos h

theorem without_cons_kept (h : ¬ erased 0 = true) :
    (x :: xs).without erased = x :: xs.without fun i => erased (i + 1) := by
  rw [without]
  exact if_neg h

end List

namespace NamedCells

/-- The operations that read the cells, or have nothing to do with them. -/
def Operation.isReading : Operation → Bool
  | .get _ | .cell _ | .report _ | .contains _ | .size | .isEmpty | .names => true
  | _ => false

/-- The operation was refused, or is one that reads. -/
def Event.Invisible (e : Event) : Prop :=
  (∃ error, e.answer = .error error) ∨ e.operation.isReading = true

namespace Engine

/-- **A refused operation changes the channel only**, which then has the error. -/
theorem perform_of_error {g : Engine} {op : Operation} {error : EngineError}
    (refused : (g.perform op).1 = .error error) :
    (g.perform op).2 = { g with channel := .ofError error } := by
  have outcome := g.perform_outcome op
  generalize g.perform op = result at outcome refused ⊢
  cases outcome with
  | refused _ e =>
    obtain rfl : e = error := Except.error.inj refused
    rfl
  | _ => cases refused

theorem registry_perform_of_isReading {g : Engine} {op : Operation}
    (reading : op.isReading = true) : (g.perform op).2.registry = g.registry := by
  rw [registry_perform]
  cases op with
  | create | set | remove | reset => cases reading
  | _ => rfl

/-- An invisible operation leaves the registry alone. -/
theorem registry_perform_of_invisible {g : Engine} {op : Operation}
    (invisible : Event.Invisible ⟨op, (g.perform op).1⟩) :
    (g.perform op).2.registry = g.registry := by
  rcases invisible with ⟨error, refused⟩ | reading
  · rw [perform_of_error refused]
  · exact registry_perform_of_isReading reading

/-- Answers depend on the registry only. -/
theorem answer_congr {g k : Engine} (same : g.registry = k.registry) (op : Operation) :
    (g.perform op).1 = (k.perform op).1 := by
  obtain ⟨cells, channel⟩ := g
  obtain ⟨_, other⟩ := k
  obtain rfl : cells = _ := same
  -- no operation looks at the channel it finds
  cases op <;> rfl

theorem registry_congr {g k : Engine} (same : g.registry = k.registry) (op : Operation) :
    (g.perform op).2.registry = (k.perform op).2.registry := by
  rw [registry_perform, registry_perform, same]

/-- A run without some of its invisible operations, from an engine with the same cells. -/
theorem run_without {ops : List Operation} {erased : Nat → Bool} {g k : Engine}
    (same : g.registry = k.registry)
    (invisible : ∀ (i : Nat) (e : Event),
      (g.history ops)[i]? = some e → erased i = true → e.Invisible) :
    (k.run (ops.without erased)).1 = (g.run ops).1.without erased ∧
      (k.run (ops.without erased)).2.registry = (g.run ops).2.registry := by
  induction ops generalizing erased g k with
  | nil => exact ⟨rfl, same.symm⟩
  | cons op ops ih =>
    rw [history_cons] at invisible
    have later : ∀ (i : Nat) (e : Event), ((g.perform op).2.history ops)[i]? = some e →
        erased (i + 1) = true → e.Invisible := fun i e => invisible (i + 1) e
    rw [run_cons]
    by_cases gone : erased 0 = true
    · -- the operation is left out: it made no difference to the cells, so the rest agrees
      have untouched : (g.perform op).2.registry = g.registry :=
        registry_perform_of_invisible (invisible 0 _ rfl gone)
      rw [List.without_cons_erased gone, List.without_cons_erased gone]
      exact ih (untouched.trans same) later
    · -- the operation is kept: both engines answer the same and go on with the same cells
      have answer : (k.perform op).1 = (g.perform op).1 := answer_congr same.symm op
      obtain ⟨answers, registry⟩ := ih (registry_congr same op) later
      rw [List.without_cons_kept gone, List.without_cons_kept gone, run_cons]
      refine ⟨?_, registry⟩
      rw [answer, answers]

end Engine

/-- **Invisible operations can be left out of a run.**  Let operations be left out of a run of an
engine, at any positions, each of which was refused or only reads.  All others are answered as
before, and the run ends with the same registry: the same names, and the same record under each.
In particular a refused operation leaves nothing but its error in the channel. -/
theorem run_without_invisible (g : Engine) (ops : List Operation) (erased : Nat → Bool)
    (invisible : ∀ (i : Nat) (e : Event),
      (g.history ops)[i]? = some e → erased i = true → e.Invisible) :
    (g.run (ops.without erased)).1 = (g.run ops).1.without erased ∧
    (g.run (ops.without erased)).2.registry = (g.run ops).2.registry ∧
    ∀ op error, (g.perform op).1 = .error error →
      (g.perform op).2 = { g with channel := .ofError error } := by
  obtain ⟨answers, registry⟩ := Engine.run_without rfl invisible
  exact ⟨answers, registry, fun _ _ refused => Engine.perform_of_error refused⟩

/-- Two refused writes and two questions are left out of a run of five operations and one more. -/
theorem run_without_invisible_refused :
    let g := Engine.new { redefinition := .reject }
    let ops : List Operation := [.create "a" ⟨1⟩, .set "b" ⟨2⟩, .get "a", .create "a" ⟨3⟩,
      .names, .set "a" ⟨4⟩]
    let erased : Nat → Bool := fun i => decide (1 ≤ i ∧ i ≤ 4)
    (∀ (i : Nat) (e : Event),
      (g.history ops)[i]? = some e → erased i = true → e.Invisible) ∧
    (g.run [.create "a" ⟨1⟩, .set "a" ⟨4⟩]).1 = [.ok (.write .inserted), .ok (.value ⟨1⟩)] ∧
    (g.run [.create "a" ⟨1⟩, .set "a" ⟨4⟩]).2.registry = (g.run ops).2.registry := by
  intro g ops erased
  have invisible : ∀ (i : Nat) (e : Event),
      (g.history ops)[i]? = some e → erased i = true → e.Invisible := by
    intro i e at_i gone
    have range : 1 ≤ i ∧ i ≤ 4 := of_decide_eq_true gone
    obtain rfl | rfl | rfl | rfl : i = 1 ∨ i = 2 ∨ i = 3 ∨ i = 4 := by omega
    · obtain rfl := Option.some.inj at_i
      exact .inl ⟨_, rfl⟩
    · obtain rfl := Option.some.inj at_i
      exact .inr rfl
    · obtain rfl := Option.some.inj at_i
      exact .inl ⟨_, rfl⟩
    · obtain rfl := Option.some.inj at_i
      exact .inr rfl
  obtain ⟨answers, registry, -⟩ := run_without_invisible g ops erased invisible
  exact ⟨invisible, answers.trans rfl, registry⟩

end NamedCells
