import NamedCells.Proofs.LatestOperation
import NamedCells.Proofs.RegistryInvariant

/-!
# Operations on different cells

Two operations on different cells can be performed in either order, unless one of them waits for
the room that the other takes or frees.

What an operation on a cell answers, and what it leaves under the name, depends on three things: the
policy, the cell that is there, and, only for a creation of a cell that is not there, whether there
is room for one more.  Other operations on other cells change neither of the first two.  They change
the third only if they create or remove a cell while the registry is all but full.

## Main definitions

* `Registry.AlikeAt` — two registries with the same policy and the same cell under a name.
* `Registry.SameAt` — two changes with the same answer that leave the same cell under a name.
* `Engine.KeepsRoom` — the operations that neither take a place nor free one.

## Main results

* `Registry.create_sameAt`, `Registry.assign_sameAt`, `Registry.remove_sameAt` — operations on
  registries that are alike at a name.
* `Engine.perform_local` — what an operation on a cell depends on.
* `Engine.perform_after` — an operation on another cell makes no difference.
* `operations_on_different_cells_commute` — **the order does not matter.**
-/

namespace NamedCells

/-! ### Registries -/

namespace Registry

/-- Two registries with the same policy and the same cell under a name. -/
structure AlikeAt (name : String) (r s : Registry) : Prop where
  config : s.config = r.config
  cell : s.get? name = r.get? name

/-- Two changes that end alike, with an answer or with an error, and leave the same cell under the
name. -/
structure SameAt (name : String) {α : Type} (first second : Except EngineError α × Registry) :
    Prop where
  answer : second.1 = first.1
  cell : second.2.get? name = first.2.get? name

variable {r s : Registry} {name : String}

theorem AlikeAt.admits_iff (alike : AlikeAt name r s) (value : Binary64) :
    s.Admits value ↔ r.Admits value := by
  rw [Admits, Admits, alike.config]

/-- Where a cell is missing, a creation also depends on whether there is room for it. -/
theorem create_sameAt (value : Binary64) (alike : AlikeAt name r s)
    (room : r.get? name = none → (s.size < s.config.maxCells ↔ r.size < r.config.maxCells)) :
    SameAt name (r.create name value) (s.create name value) := by
  have outcome := r.create_outcome name value
  generalize r.create name value = result at outcome ⊢
  cases outcome with
  | badName fault bad =>
    rw [CreateOutcome.eq (.badName fault bad)]
    exact ⟨rfl, alike.cell⟩
  | badValue good refused =>
    have refused' : ¬ s.Admits value := mt (alike.admits_iff value).mp refused
    rw [CreateOutcome.eq (.badValue good refused')]
    exact ⟨rfl, alike.cell⟩
  | redefined good admitted cell taken policy =>
    have admitted' : s.Admits value := (alike.admits_iff value).mpr admitted
    have policy' : s.config.redefinition = .overwrite := by rw [alike.config, policy]
    rw [CreateOutcome.eq (.redefined good admitted' cell (alike.cell.trans taken) policy')]
    exact ⟨rfl, by rw [get?_put_self, get?_put_self]⟩
  | duplicate good admitted cell taken policy =>
    have admitted' : s.Admits value := (alike.admits_iff value).mpr admitted
    have policy' : s.config.redefinition = .reject := by rw [alike.config, policy]
    rw [CreateOutcome.eq (.duplicate good admitted' cell (alike.cell.trans taken) policy')]
    exact ⟨rfl, alike.cell⟩
  | full good admitted free noRoom =>
    have admitted' : s.Admits value := (alike.admits_iff value).mpr admitted
    have noRoom' : s.config.maxCells ≤ s.size :=
      Nat.le_of_not_lt (mt (room free).mp (Nat.not_lt_of_le noRoom))
    rw [CreateOutcome.eq (.full good admitted' (alike.cell.trans free) noRoom'), alike.config]
    exact ⟨rfl, alike.cell⟩
  | inserted good admitted free space =>
    have admitted' : s.Admits value := (alike.admits_iff value).mpr admitted
    have space' : s.size < s.config.maxCells := (room free).mpr space
    rw [CreateOutcome.eq (.inserted good admitted' (alike.cell.trans free) space')]
    exact ⟨rfl, by rw [get?_put_self, get?_put_self]⟩

theorem assign_sameAt (value : Binary64) (alike : AlikeAt name r s) :
    SameAt name (r.assign name value) (s.assign name value) := by
  have outcome := r.assign_outcome name value
  generalize r.assign name value = result at outcome ⊢
  cases outcome with
  | badName fault bad =>
    rw [AssignOutcome.eq (.badName fault bad)]
    exact ⟨rfl, alike.cell⟩
  | badValue good refused =>
    have refused' : ¬ s.Admits value := mt (alike.admits_iff value).mp refused
    rw [AssignOutcome.eq (.badValue good refused')]
    exact ⟨rfl, alike.cell⟩
  | absent good admitted free =>
    have admitted' : s.Admits value := (alike.admits_iff value).mpr admitted
    rw [AssignOutcome.eq (.absent good admitted' (alike.cell.trans free))]
    exact ⟨rfl, alike.cell⟩
  | assigned good admitted cell taken =>
    have admitted' : s.Admits value := (alike.admits_iff value).mpr admitted
    rw [AssignOutcome.eq (.assigned good admitted' cell (alike.cell.trans taken))]
    exact ⟨rfl, by rw [get?_put_self, get?_put_self]⟩

theorem remove_sameAt (alike : AlikeAt name r s) :
    SameAt name (r.remove name) (s.remove name) := by
  have outcome := r.remove_outcome name
  generalize r.remove name = result at outcome ⊢
  cases outcome with
  | badName fault bad =>
    rw [RemoveOutcome.eq (.badName fault bad)]
    exact ⟨rfl, alike.cell⟩
  | absent good free =>
    rw [RemoveOutcome.eq (.absent good (alike.cell.trans free))]
    exact ⟨rfl, alike.cell⟩
  | removed good cell taken =>
    rw [RemoveOutcome.eq (.removed good cell (alike.cell.trans taken))]
    exact ⟨rfl, by rw [get?_erase_self, get?_erase_self]⟩

theorem lookup_of_alikeAt (alike : AlikeAt name r s) : s.lookup name = r.lookup name := by
  simp only [lookup, alike.cell]

end Registry

/-! ### Operations on one cell -/

/-- The operations that neither take a place nor free one, whatever they come to: a reading, an
assignment, and the creation of a cell that is there. -/
inductive Engine.KeepsRoom (g : Engine) : Operation → Prop
  | get (name : String) : KeepsRoom g (.get name)
  | cell (name : String) : KeepsRoom g (.cell name)
  | set (name : String) (value : Binary64) : KeepsRoom g (.set name value)
  | create (name : String) (value : Binary64) (present : g.contains name = true) :
    KeepsRoom g (.create name value)

namespace Engine

variable {g k : Engine} {op p q : Operation} {name n m : String}

/-- **What an operation on a cell depends on.** -/
theorem perform_local (about : op.name? = some name)
    (alike : Registry.AlikeAt name g.registry k.registry)
    (room : ∀ value, op = .create name value → g.registry.get? name = none →
      (k.size < k.registry.config.maxCells ↔ g.size < g.registry.config.maxCells)) :
    (k.perform op).1 = (g.perform op).1 ∧
      (k.perform op).2.registry.get? name = (g.perform op).2.registry.get? name := by
  cases op with
  | create other value =>
    obtain rfl : other = name := Option.some.inj about
    obtain ⟨answer, cell⟩ := Registry.create_sameAt value alike (room value rfl)
    simp only [perform, create]
    generalize g.registry.create other value = first at answer cell ⊢
    generalize k.registry.create other value = second at answer cell ⊢
    obtain ⟨result, _⟩ := first
    obtain ⟨result', _⟩ := second
    obtain rfl : result' = result := answer
    -- the answer of the engine is that of its registry, which it takes over as it is left
    rcases result' with _ | ⟨_ | _⟩ <;> exact ⟨rfl, cell⟩
  | set other value =>
    obtain rfl : other = name := Option.some.inj about
    obtain ⟨answer, cell⟩ := Registry.assign_sameAt value alike
    exact ⟨congrArg (Except.map Reply.value) answer, cell⟩
  | remove other =>
    obtain rfl : other = name := Option.some.inj about
    obtain ⟨answer, cell⟩ := Registry.remove_sameAt alike
    exact ⟨congrArg (Except.map Reply.value) answer, cell⟩
  | get other =>
    obtain rfl : other = name := Option.some.inj about
    simp only [perform, get, Registry.lookup_of_alikeAt alike]
    exact ⟨rfl, alike.cell⟩
  | cell other =>
    obtain rfl : other = name := Option.some.inj about
    simp only [perform, Engine.cell, Registry.lookup_of_alikeAt alike]
    exact ⟨rfl, alike.cell⟩
  | reset | report | contains | size | isEmpty | names => cases about

/-! ### Room -/

/-- The creation of a cell that is missing needs room. -/
theorem KeepsRoom.get?_ne_none {value : Binary64} (keeps : g.KeepsRoom (.create n value)) :
    g.registry.get? n ≠ none := by
  cases keeps with
  | create _ _ present =>
    rw [contains, Registry.contains_eq_isSome_get?] at present
    exact Option.isSome_iff_ne_none.mp present

theorem config_perform (g : Engine) (op : Operation) :
    (g.perform op).2.registry.config = g.registry.config := by
  have outcome := g.perform_outcome op
  generalize g.perform op = after at outcome ⊢
  cases outcome <;> rfl

/-- No operation takes more than one place. -/
theorem size_perform_le (g : Engine) (op : Operation) : (g.perform op).2.size ≤ g.size + 1 := by
  have outcome := g.perform_outcome op
  generalize g.perform op = after at outcome ⊢
  cases outcome with
  | inserted name value good admitted free => exact Nat.le_of_eq (Registry.size_put_of_eq_none free)
  | redefined name value cell good admitted taken =>
    exact Nat.le_succ_of_le (Nat.le_of_eq (Registry.size_put_of_eq_some taken))
  | assigned name value cell good admitted taken =>
    exact Nat.le_succ_of_le (Nat.le_of_eq (Registry.size_put_of_eq_some taken))
  | removed name => exact Nat.le_succ_of_le (g.registry.size_erase_le name)
  | emptied => exact Nat.le_trans (Nat.le_of_eq (Registry.size_empty _)) (Nat.zero_le _)
  | refused | read | shown | reported | asked => exact Nat.le_succ _

theorem size_perform_of_keepsRoom (keeps : g.KeepsRoom op) : (g.perform op).2.size = g.size := by
  have outcome := g.perform_outcome op
  generalize g.perform op = after at outcome ⊢
  cases outcome with
  | inserted name value good admitted free => exact absurd free keeps.get?_ne_none
  | redefined name value cell good admitted taken => exact Registry.size_put_of_eq_some taken
  | assigned name value cell good admitted taken => exact Registry.size_put_of_eq_some taken
  | removed | emptied | reported => cases keeps
  | refused | read | shown | asked => rfl

/-! ### Two operations -/

/-- Whether there is room for a cell that is missing is not changed by an operation on another cell,
except in the last two places. -/
theorem room_after {value : Binary64}
    (room : g.size + 2 ≤ g.registry.config.maxCells ∨ g.KeepsRoom (.create n value) ∨ g.KeepsRoom q)
    (free : g.registry.get? n = none) :
    (g.perform q).2.size < (g.perform q).2.registry.config.maxCells ↔
      g.size < g.registry.config.maxCells := by
  rw [config_perform]
  rcases room with spacious | keeps | keeps
  · have grown := g.size_perform_le q
    exact iff_of_true (by omega) (by omega)
  · exact absurd free keeps.get?_ne_none
  · rw [size_perform_of_keepsRoom keeps]

/-- **An operation on another cell makes no difference** to the answer to an operation, nor to the
cell that it leaves. -/
theorem perform_after (onN : p.name? = some n) (onM : q.name? = some m) (apart : n ≠ m)
    (room : g.size + 2 ≤ g.registry.config.maxCells ∨ g.KeepsRoom p ∨ g.KeepsRoom q) :
    ((g.perform q).2.perform p).1 = (g.perform p).1 ∧
      ((g.perform q).2.perform p).2.registry.get? n = (g.perform p).2.registry.get? n := by
  refine perform_local onN ⟨g.config_perform q, g.get?_perform_of_other onM apart.symm⟩ ?_
  rintro value rfl free
  exact room_after room free

/-- Both orders leave the same cells. -/
theorem registry_comm (onN : p.name? = some n) (onM : q.name? = some m) (apart : n ≠ m)
    (room : g.size + 2 ≤ g.registry.config.maxCells ∨ g.KeepsRoom p ∨ g.KeepsRoom q) :
    ((g.perform p).2.perform q).2.registry = ((g.perform q).2.perform p).2.registry := by
  apply Registry.ext_get?
  · rw [config_perform, config_perform, config_perform, config_perform]
  intro name
  -- whichever operation is about the name, the other one leaves what it finds there
  by_cases atN : n = name
  · subst atN
    rw [get?_perform_of_other _ onM apart.symm, (perform_after onN onM apart room).2]
  by_cases atM : m = name
  · subst atM
    have room' := room.imp_right Or.symm
    rw [get?_perform_of_other _ onN apart, (perform_after onM onN apart.symm room').2]
  · rw [get?_perform_of_other _ onM atM, get?_perform_of_other _ onN atN,
      get?_perform_of_other _ onN atN, get?_perform_of_other _ onM atM]

end Engine

/-- **The order of two operations on different cells does not matter.**  This holds of every engine,
reachable or not, and of every two operations on different cells, if there are two free places, or
if one of the two operations keeps the room as it is.

* Each operation is answered as if it were the only one, whether it comes first or second.
* Both orders leave the same policy and the same cells, each with the same record.
* The channel has the remark on whichever operation came second. -/
theorem operations_on_different_cells_commute (g : Engine) {p q : Operation} {n m : String}
    (onN : p.name? = some n) (onM : q.name? = some m) (apart : n ≠ m)
    (room : g.size + 2 ≤ g.registry.config.maxCells ∨ g.KeepsRoom p ∨ g.KeepsRoom q) :
    let a := (g.perform p).1
    let b := (g.perform q).1
    (g.run [p, q]).1 = [a, b] ∧
    (g.run [q, p]).1 = [b, a] ∧
    (g.run [p, q]).2.registry = (g.run [q, p]).2.registry ∧
    (g.run [p, q]).2.channel = Event.remark ⟨q, b⟩ ∧
    (g.run [q, p]).2.channel = Event.remark ⟨p, a⟩ := by
  intro a b
  have second : ((g.perform p).2.perform q).1 = b :=
    (Engine.perform_after onM onN apart.symm (room.imp_right Or.symm)).1
  have second' : ((g.perform q).2.perform p).1 = a := (Engine.perform_after onN onM apart room).1
  refine ⟨?_, ?_, Engine.registry_comm onN onM apart room, ?_, ?_⟩
  · show [a, ((g.perform p).2.perform q).1] = [a, b]
    rw [second]
  · show [b, ((g.perform q).2.perform p).1] = [b, a]
    rw [second']
  · show ((g.perform p).2.perform q).2.channel = _
    rw [Engine.channel_perform _ (Operation.isQuestion_of_name? onM), second]
  · show ((g.perform q).2.perform p).2.channel = _
    rw [Engine.channel_perform _ (Operation.isQuestion_of_name? onN), second']

/-- With one place left a cell is redefined and another one takes the place.  Each finds what it
would find alone, and only the redefinition leaves something in the channel, if it comes second. -/
theorem operations_on_different_cells_commute_last_place :
    let g := ((Engine.new { maxCells := 2 }).run [.create "a" ⟨1⟩]).2
    let p := Operation.create "a" ⟨2⟩
    let q := Operation.create "b" ⟨3⟩
    g.KeepsRoom p ∧
      (g.run [p, q]).1 = [.ok (.write (.redefined ⟨1⟩)), .ok (.write .inserted)] ∧
      (g.run [q, p]).1 = [.ok (.write .inserted), .ok (.write (.redefined ⟨1⟩))] ∧
      (g.run [p, q]).2.registry = (g.run [q, p]).2.registry ∧
      (g.run [p, q]).2.lastStatus = .ok ∧ (g.run [q, p]).2.lastStatus = .duplicateCellName := by
  intro g p q
  have keeps : g.KeepsRoom p := .create "a" ⟨2⟩ (by decide)
  have apart : "a" ≠ "b" := by decide
  obtain ⟨answers, answers', registry, channel, channel'⟩ :=
    operations_on_different_cells_commute g (p := p) (q := q) rfl rfl apart (.inr (.inl keeps))
  exact ⟨keeps, answers, answers', registry, congrArg Channel.status channel,
    congrArg Channel.status channel'⟩

/-- Two new cells that want the last place do not leave the same cells in either order. -/
example :
    let g := Engine.new { maxCells := 1 }
    (g.run [.create "a" ⟨1⟩, .create "b" ⟨2⟩]).2.names = ["a"] ∧
      (g.run [.create "b" ⟨2⟩, .create "a" ⟨1⟩]).2.names = ["b"] :=
  ⟨List.mergeSort_singleton "a", List.mergeSort_singleton "b"⟩

end NamedCells
