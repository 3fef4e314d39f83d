import NamedCells.Proofs.EngineOutcomes

/-!
# Histories of an engine

The history of a run is the list of its operations with their answers.  Nothing else is needed to
know what an engine holds: a cell lives from the creation that was answered as an insertion to its
removal or to the next reset, its value is the one of the latest write, and its revision counts the
writes of its life.

The argument goes through `CellStep`, which says what one event can mean for the cell of one name.
Each operation is such a step, so a run is a chain of them, and the facts about histories are proved
along the chain without looking at an engine again.

## Main definitions

* `Event`, `Engine.history` — an operation with its answer, and the events of a run.
* `Event.Inserts`, `Event.Ends`, `Event.write?`, `Event.previous?` — what an event says about a
  name.
* `CellStep`, `CellChain` — how the cell of a name goes along with one event, and with several.

## Main results

* `Engine.perform_cellStep` — every operation is a step for every name.
* `Engine.cellChain_history` — a run is a chain for every name.
* `history_determines_cell` — **what an engine holds under a name follows from the history.**
-/

namespace NamedCells

/-- The name that an operation is about. -/
def Operation.name? : Operation → Option String
  | .create name _ => some name
  | .set name _ => some name
  | .get name => some name
  | .cell name => some name
  | .remove name => some name
  | _ => none

theorem Operation.ne_reset_of_name? {op : Operation} {name : String}
    (about : op.name? = some name) : op ≠ .reset := by
  rintro rfl
  cases about

theorem Operation.isQuestion_of_name? {op : Operation} {name : String}
    (about : op.name? = some name) : op.isQuestion = false := by
  cases op with
  | contains | size | isEmpty | names => cases about
  | _ => rfl

/-- An operation with its answer. -/
structure Event where
  /-- What was asked. -/
  operation : Operation
  /-- What was answered. -/
  answer : Answer

namespace Event

/-- A creation of the cell that was answered as an insertion. -/
def Inserts (e : Event) (name : String) : Prop :=
  ∃ value, e = ⟨.create name value, .ok (.write .inserted)⟩

/-- A removal of the cell that succeeded, or a reset. -/
def Ends (e : Event) (name : String) : Prop :=
  (∃ reply, e = ⟨.remove name, .ok reply⟩) ∨ e.operation = .reset

/-- The value that a successful creation or assignment gave the cell, and how it came about. -/
def write? (name : String) : Event → Option (Binary64 × Change)
  | ⟨.create other value, .ok (.write .inserted)⟩ =>
    if other = name then some (value, .created) else none
  | ⟨.create other value, .ok (.write (.redefined _))⟩ =>
    if other = name then some (value, .redefined) else none
  | ⟨.set other value, .ok _⟩ => if other = name then some (value, .assigned) else none
  | _ => none

/-- The value that the cell had before it was redefined, assigned or removed, as it was answered. -/
def previous? (name : String) : Event → Option Binary64
  | ⟨.create other _, .ok (.write (.redefined previous))⟩ =>
    if other = name then some previous else none
  | ⟨.set other _, .ok (.value previous)⟩ => if other = name then some previous else none
  | ⟨.remove other, .ok (.value previous)⟩ => if other = name then some previous else none
  | _ => none

/-- Nothing is said about the cell: it is not written, does not end, and no value of it is
answered as a previous one. -/
structure Silent (e : Event) (name : String) : Prop where
  write : e.write? name = none
  lasts : ¬ e.Ends name
  previous : e.previous? name = none

/-- An insertion is a write. -/
theorem Inserts.write?_eq {e : Event} {name : String} (h : e.Inserts name) :
    ∃ value, e.write? name = some (value, .created) := by
  obtain ⟨value, rfl⟩ := h
  exact ⟨value, by simp [write?]⟩

/-- What does not succeed says nothing. -/
theorem silent_error (op : Operation) (error : EngineError) (name : String) (h : op ≠ .reset) :
    Silent ⟨op, .error error⟩ name where
  write := by cases op <;> rfl
  lasts := by
    rintro (⟨reply, same⟩ | reset)
    · simp at same
    · exact h reset
  previous := by cases op <;> rfl

/-- An event about another name, or about none, says nothing. -/
theorem silent_of_name?_ne {op : Operation} {answer : Answer} {name : String}
    (other : op.name? ≠ some name) (h : op ≠ .reset) : Silent ⟨op, answer⟩ name where
  write := by
    cases op with
    | create n value =>
      have ne : n ≠ name := fun same => other (congrArg some same)
      rcases answer with error | ((_ | previous) | _ | _ | _ | _ | _ | _) <;> simp [write?, ne]
    | set n value =>
      have ne : n ≠ name := fun same => other (congrArg some same)
      rcases answer with error | reply <;> simp [write?, ne]
    | _ => rfl
  lasts := by
    rintro (⟨reply, same⟩ | reset)
    · refine other ?_
      have op_eq : op = .remove name := congrArg Event.operation same
      rw [op_eq]
      rfl
    · exact h reset
  previous := by
    cases op with
    | create n value =>
      have ne : n ≠ name := fun same => other (congrArg some same)
      rcases answer with error | ((_ | previous) | _ | _ | _ | _ | _ | _) <;> simp [previous?, ne]
    | set n value =>
      have ne : n ≠ name := fun same => other (congrArg some same)
      rcases answer with error | (_ | _ | _ | _ | _ | _ | _) <;> simp [previous?, ne]
    | remove n =>
      have ne : n ≠ name := fun same => other (congrArg some same)
      rcases answer with error | (_ | _ | _ | _ | _ | _ | _) <;> simp [previous?, ne]
    | _ => rfl

end Event

/-! ### What an event can mean for the cell of a name -/

/-- How the cell of a name, if there is one, goes along with an event. -/
inductive CellStep (name : String) : Option Cell → Event → Option Cell → Prop
  /-- There was no cell and now there is one, which only a well-formed name can have. -/
  | insert (good : Name.fault? name = none) (value : Binary64) :
    CellStep name none ⟨.create name value, .ok (.write .inserted)⟩ (some (Cell.create name value))
  /-- The cell was created once more, and its value was answered. -/
  | redefine (cell : Cell) (value : Binary64) :
    CellStep name (some cell) ⟨.create name value, .ok (.write (.redefined cell.value))⟩
      (some (cell.write value .redefined))
  /-- The cell was assigned a value, and its value before was answered. -/
  | assign (cell : Cell) (value : Binary64) :
    CellStep name (some cell) ⟨.set name value, .ok (.value cell.value)⟩
      (some (cell.write value .assigned))
  /-- The cell was removed, and its value was answered. -/
  | remove (cell : Cell) :
    CellStep name (some cell) ⟨.remove name, .ok (.value cell.value)⟩ none
  /-- All cells were removed. -/
  | reset (before : Option Cell) (n : Nat) : CellStep name before ⟨.reset, .ok (.count n)⟩ none
  /-- Nothing happened to the cell. -/
  | keep (cell : Option Cell) (e : Event) (silent : e.Silent name) : CellStep name cell e cell

/-- A chain of steps. -/
inductive CellChain (name : String) : Option Cell → List Event → Option Cell → Prop
  | nil (cell : Option Cell) : CellChain name cell [] cell
  | cons {before between after : Option Cell} {e : Event} {events : List Event}
    (step : CellStep name before e between) (rest : CellChain name between events after) :
    CellChain name before (e :: events) after

/-- A chain can be cut anywhere. -/
theorem CellChain.exists_of_append {name : String} : ∀ {first second : List Event}
    {before after : Option Cell}, CellChain name before (first ++ second) after →
    ∃ between, CellChain name before first between ∧ CellChain name between second after := by
  intro first
  induction first with
  | nil =>
    intro second before after h
    exact ⟨before, .nil before, h⟩
  | cons e first ih =>
    intro second before after h
    cases h with
    | cons step rest =>
      obtain ⟨between, hfirst, hsecond⟩ := ih rest
      exact ⟨between, .cons step hfirst, hsecond⟩

/-! ### Operations are steps -/

namespace Engine

/-- An operation that is neither about a name nor a reset leaves the cell of the name alone. -/
theorem get?_perform_of_name?_ne (g : Engine) {op : Operation} {name : String}
    (other : op.name? ≠ some name) (h : op ≠ .reset) :
    (g.perform op).2.registry.get? name = g.registry.get? name := by
  have outcome := g.perform_outcome op
  generalize g.perform op = result at outcome ⊢
  cases outcome with
  | inserted n | redefined n | assigned n =>
    have ne : n ≠ name := fun same => other (congrArg some same)
    rw [Registry.get?_put, if_neg ne]
  | removed n =>
    have ne : n ≠ name := fun same => other (congrArg some same)
    rw [Registry.get?_erase, if_neg ne]
  | emptied => exact absurd rfl h
  | _ => rfl

/-- An operation on one cell leaves all others alone. -/
theorem get?_perform_of_other (g : Engine) {op : Operation} {name other : String}
    (about : op.name? = some other) (apart : other ≠ name) :
    (g.perform op).2.registry.get? name = g.registry.get? name := by
  refine g.get?_perform_of_name?_ne ?_ (Operation.ne_reset_of_name? about)
  rw [about]
  exact fun same => apart (Option.some.inj same)

/-- **Every operation is a step for every name.** -/
theorem perform_cellStep (g : Engine) (op : Operation) (name : String) :
    CellStep name (g.registry.get? name) ⟨op, (g.perform op).1⟩
      ((g.perform op).2.registry.get? name) := by
  -- a reset ends every cell, and an operation about another name keeps this one
  by_cases whole : op = .reset
  · subst whole
    have gone : (g.perform .reset).2.registry.get? name = none := Registry.get?_empty _ _
    rw [gone]
    exact .reset _ _
  by_cases other : op.name? ≠ some name
  · rw [g.get?_perform_of_name?_ne other whole]
    exact .keep _ _ (Event.silent_of_name?_ne other whole)
  -- what is left are the operations about this name
  have this_one : op.name? = some name := Decidable.not_not.mp other
  have outcome := g.perform_outcome op
  generalize g.perform op = result at outcome ⊢
  cases outcome with
  | refused => exact .keep _ _ (Event.silent_error _ _ _ whole)
  | inserted n value good admitted free =>
    obtain rfl : n = name := Option.some.inj this_one
    rw [free, Registry.get?_put_self]
    exact .insert good value
  | redefined n value cell good admitted taken =>
    obtain rfl : n = name := Option.some.inj this_one
    rw [taken, Registry.get?_put_self]
    exact .redefine cell value
  | assigned n value cell good admitted taken =>
    obtain rfl : n = name := Option.some.inj this_one
    rw [taken, Registry.get?_put_self]
    exact .assign cell value
  | removed n cell good taken =>
    obtain rfl : n = name := Option.some.inj this_one
    rw [taken, Registry.get?_erase_self]
    exact .remove cell
  | read | shown => exact .keep _ _ ⟨rfl, by simp [Event.Ends], rfl⟩
  | emptied => exact absurd rfl whole
  | reported => cases this_one
  | asked op reply question =>
    cases op with
    | contains | size | isEmpty | names => cases this_one
    | _ => cases question

/-- The events of a run. -/
def history (g : Engine) (ops : List Operation) : List Event :=
  List.zipWith Event.mk ops (g.run ops).1

@[simp] theorem history_cons (g : Engine) (op : Operation) (ops : List Operation) :
    g.history (op :: ops) = ⟨op, (g.perform op).1⟩ :: (g.perform op).2.history ops := rfl

/-- **A run is a chain for every name.** -/
theorem cellChain_history (name : String) (ops : List Operation) (g : Engine) :
    CellChain name (g.registry.get? name) (g.history ops) ((g.run ops).2.registry.get? name) := by
  induction ops generalizing g with
  | nil => exact .nil _
  | cons op ops ih =>
    rw [history_cons]
    exact .cons (g.perform_cellStep op name) (ih (g.perform op).2)

end Engine

/-! ### Facts about chains -/

namespace CellStep

variable {name : String} {before after : Option Cell} {e : Event}

/-- An insertion finds no cell and leaves the one it created. -/
theorem of_inserts (step : CellStep name before e after) (h : e.Inserts name) :
    before = none ∧ ∃ value, e.write? name = some (value, .created) ∧
      after = some (Cell.create name value) := by
  obtain ⟨value, write⟩ := h.write?_eq
  obtain ⟨value', rfl⟩ := h
  cases step with
  | insert good =>
    refine ⟨rfl, value', ?_, rfl⟩
    simp [Event.write?]
  | keep _ _ silent => rw [silent.write] at write; cases write

/-- A cell that an event does not end is the cell before after the write of the event, if it is
one. -/
theorem of_not_ends {cell : Cell} (step : CellStep name (some cell) e after)
    (h : ¬ e.Ends name) :
    after = some ((e.write? name).toList.foldl (fun c w => c.write w.1 w.2) cell) := by
  cases step with
  | redefine value => simp [Event.write?]
  | assign value => simp [Event.write?]
  | remove => exact absurd (.inl ⟨_, rfl⟩) h
  | reset n => exact absurd (.inr rfl) h
  | keep _ _ silent => simp [silent.write]

/-- A value that is answered as the previous one is the value of the cell. -/
theorem of_previous? {previous : Binary64} (step : CellStep name before e after)
    (h : e.previous? name = some previous) : before.map Cell.value = some previous := by
  cases step with
  | insert => simp [Event.previous?] at h
  | redefine cell value => simpa [Event.previous?] using h
  | assign cell value => simpa [Event.previous?] using h
  | remove cell => simpa [Event.previous?] using h
  | reset => simp [Event.previous?] at h
  | keep _ _ silent => rw [silent.previous] at h; cases h

end CellStep

namespace CellChain

variable {name : String} {before after : Option Cell} {events : List Event}

/-- Where there is no cell at first, only a well-formed name gets one. -/
theorem good_of_isSome (chain : CellChain name before events after)
    (h : before.isSome → Name.fault? name = none) (some : after.isSome) :
    Name.fault? name = none := by
  induction chain with
  | nil cell => exact h some
  | cons step rest ih =>
    refine ih (fun between => ?_) some
    cases step with
    | insert good => exact good
    | keep => exact h between
    | redefine | assign => exact h rfl
    | remove | reset => cases between

/-- A cell that is not ended has taken all writes. -/
theorem of_not_ends {cell : Cell} (chain : CellChain name (some cell) events after)
    (h : ∀ e ∈ events, ¬ e.Ends name) :
    after = some
      ((events.filterMap (Event.write? name)).foldl (fun c w => c.write w.1 w.2) cell) := by
  induction events generalizing cell with
  | nil => cases chain; rfl
  | cons e events ih =>
    cases chain with
    | cons step rest =>
      -- the first event leaves the cell with its write, from which the others go on
      have first := step.of_not_ends (h e List.mem_cons_self)
      subst first
      rw [ih rest fun e' mem => h e' (List.mem_cons_of_mem e mem)]
      cases write : e.write? name <;> simp [write]

/-- Where there is a cell in the end it was there all the time, or it lives since some insertion. -/
theorem exists_insertion {cell : Cell} (chain : CellChain name before events (some cell)) :
    (before.isSome ∧ ∀ e ∈ events, ¬ e.Ends name) ∨
      ∃ first insertion rest, events = first ++ insertion :: rest ∧ insertion.Inserts name ∧
        ∀ e ∈ rest, ¬ e.Ends name := by
  induction events generalizing before with
  | nil =>
    cases chain
    exact .inl ⟨rfl, by simp⟩
  | cons e events ih =>
    cases chain with
    | cons step rest =>
      rcases ih rest with ⟨between, lasts⟩ | ⟨first, insertion, rest', rfl, hins, lasts⟩
      · -- the cell was there after this event: either the event is the insertion or it keeps it
        have keeps (h : ¬ e.Ends name) : ∀ e' ∈ e :: events, ¬ e'.Ends name := by
          intro e' mem
          rcases List.mem_cons.mp mem with rfl | mem
          · exact h
          · exact lasts e' mem
        cases step with
        | insert good value => exact .inr ⟨[], _, events, rfl, ⟨value, rfl⟩, lasts⟩
        | redefine => exact .inl ⟨rfl, keeps (by simp [Event.Ends])⟩
        | assign => exact .inl ⟨rfl, keeps (by simp [Event.Ends])⟩
        | remove | reset => cases between
        | keep _ _ silent => exact .inl ⟨between, keeps silent.lasts⟩
      · exact .inr ⟨e :: first, insertion, rest', rfl, hins, lasts⟩

/-- The value of a cell is the one of the latest write, or the one it had at first. -/
theorem value_eq_getLast? {cell : Cell} (chain : CellChain name before events (some cell)) :
    ((events.filterMap (Event.write? name)).getLast?.map Prod.fst).or (before.map Cell.value) =
      some cell.value := by
  induction events generalizing before with
  | nil => cases chain; rfl
  | cons e events ih =>
    cases chain with
    | cons step rest =>
      have tail := ih rest
      cases step with
      | insert | redefine | assign =>
        -- the write of this event counts if there is none after it
        rw [List.filterMap_cons]
        simp only [Event.write?, if_true, List.getLast?_cons, Option.map_some, Option.some_or]
        cases last : (events.filterMap (Event.write? name)).getLast? <;>
          simpa [last, Cell.create, Cell.write] using tail
      | remove | reset =>
        -- there is no cell after this event, so some later event writes one
        rw [Option.map_none, Option.or_none] at tail
        rw [List.filterMap_cons_none rfl, tail]
        rfl
      | keep _ _ silent => rwa [List.filterMap_cons_none silent.write]

end CellChain

/-- A cell after several writes has the value and the change of the last one, and counts them
all. -/
theorem Cell.foldl_write (writes : List (Binary64 × Change)) (cell : Cell) :
    writes.foldl (fun c w => c.write w.1 w.2) cell =
      { cell with
        value := (writes.getLast?.getD (cell.value, cell.lastChange)).1
        revision := cell.revision + writes.length
        lastChange := (writes.getLast?.getD (cell.value, cell.lastChange)).2 } := by
  induction writes generalizing cell with
  | nil => rfl
  | cons w writes ih =>
    rw [List.foldl_cons, ih, List.getLast?_cons]
    simp only [Cell.write, List.length_cons, Option.getD_some, Cell.mk.injEq, true_and]
    exact ⟨by omega, trivial⟩

/-! ### What an engine holds -/

namespace Engine

variable {config : EngineConfig} {ops : List Operation} {name : String}

/-- A run of a new engine is a chain from no cell. -/
theorem cellChain_new (config : EngineConfig) (ops : List Operation) (name : String) :
    CellChain name none ((new config).history ops)
      (((new config).run ops).2.registry.get? name) := by
  have chain := cellChain_history name ops (new config)
  rwa [show (new config).registry.get? name = none from Registry.get?_empty config name] at chain

/-- What an engine holds whose history has an insertion that nothing ended: the cell of the
insertion after all writes since. -/
theorem get?_of_insertion {first rest : List Event} {insertion : Event}
    (cut : (new config).history ops = first ++ insertion :: rest)
    (inserts : insertion.Inserts name) (lasts : ∀ e ∈ rest, ¬ e.Ends name) :
    ∃ value, insertion.write? name = some (value, .created) ∧
      ((new config).run ops).2.registry.get? name = some
        ((rest.filterMap (Event.write? name)).foldl (fun c w => c.write w.1 w.2)
          (Cell.create name value)) := by
  have chain := cellChain_new config ops name
  rw [cut] at chain
  obtain ⟨between, -, tail⟩ := chain.exists_of_append
  cases tail with
  | cons step after =>
    obtain ⟨-, value, write, created⟩ := step.of_inserts inserts
    subst created
    exact ⟨value, write, after.of_not_ends lasts⟩

/-- What an engine answers about a cell that it holds. -/
theorem answers_of_get? {cell : Cell}
    (held : ((new config).run ops).2.registry.get? name = some cell) :
    (((new config).run ops).2.get name).1 = .ok cell.value ∧
      (((new config).run ops).2.cell name).1 = .ok cell := by
  have good : Name.fault? name = none :=
    (cellChain_new config ops name).good_of_isSome (by simp) (by rw [held]; rfl)
  have found := Registry.lookup_eq_ok good held
  constructor
  · simp [Engine.get, afterReading, found, Except.map]
  · simp [Engine.cell, afterReading, found]

/-- A cell that is answered is held. -/
theorem get?_of_cell_eq_ok {g : Engine} {cell : Cell} (shown : (g.cell name).1 = .ok cell) :
    g.registry.get? name = some cell := by
  have outcome := g.registry.lookup_outcome name
  simp only [Engine.cell, afterReading] at shown
  rw [shown] at outcome
  cases outcome with
  | found _ _ taken => exact taken

/-- There is a cell iff it lives since some insertion. -/
theorem contains_iff_exists_insertion :
    ((new config).run ops).2.contains name = true ↔
      ∃ first insertion rest, (new config).history ops = first ++ insertion :: rest ∧
        insertion.Inserts name ∧ ∀ e ∈ rest, ¬ e.Ends name := by
  rw [contains, Registry.contains_eq_isSome_get?]
  constructor
  · intro there
    obtain ⟨cell, held⟩ := Option.isSome_iff_exists.mp there
    have chain := cellChain_new config ops name
    rw [held] at chain
    rcases chain.exists_insertion with ⟨atFirst, -⟩ | since
    · cases atFirst
    · exact since
  · rintro ⟨first, insertion, rest, cut, inserts, lasts⟩
    obtain ⟨value, -, held⟩ := get?_of_insertion cut inserts lasts
    rw [held]
    rfl

/-- A cell has the value and the change of the latest write and counts the writes of its life. -/
theorem cell_since_insertion {first rest : List Event} {insertion : Event}
    (cut : (new config).history ops = first ++ insertion :: rest)
    (inserts : insertion.Inserts name) (lasts : ∀ e ∈ rest, ¬ e.Ends name) :
    ∃ value change,
      ((insertion :: rest).filterMap (Event.write? name)).getLast? = some (value, change) ∧
      ((new config).run ops).2.registry.get? name = some
        { name, kind := .value, value
          revision := ((insertion :: rest).filterMap (Event.write? name)).length
          lastChange := change } := by
  obtain ⟨value, write, held⟩ := get?_of_insertion cut inserts lasts
  -- the insertion is the first write of the life, and counts as revision one
  rw [List.filterMap_cons_some write, List.getLast?_cons, held, Cell.foldl_write]
  refine ⟨_, _, rfl, ?_⟩
  simp only [Cell.create, List.length_cons, Option.some.injEq, Cell.mk.injEq, true_and]
  exact ⟨rfl, by omega, rfl⟩

/-- A value that was answered as the previous one is the value of the write before. -/
theorem previous?_eq_getLast? {first rest : List Event} {e : Event} {previous : Binary64}
    (cut : (new config).history ops = first ++ e :: rest)
    (answered : e.previous? name = some previous) :
    (first.filterMap (Event.write? name)).getLast?.map Prod.fst = some previous := by
  have chain := cellChain_new config ops name
  rw [cut] at chain
  obtain ⟨between, head, tail⟩ := chain.exists_of_append
  cases tail with
  | cons step after =>
    -- the value is that of the cell at the cut, whose latest write is before the cut
    obtain ⟨cell, rfl, value⟩ := Option.map_eq_some_iff.mp (step.of_previous? answered)
    have written := head.value_eq_getLast?
    rwa [Option.map_none, Option.or_none, value] at written

/-- No cell was written more often than there were operations. -/
theorem revision_le_length {cell : Cell}
    (held : ((new config).run ops).2.registry.get? name = some cell) :
    cell.revision ≤ ops.length := by
  have there : ((new config).run ops).2.contains name = true := by
    rw [contains, Registry.contains_eq_isSome_get?, held]
    rfl
  obtain ⟨first, insertion, rest, cut, inserts, lasts⟩ := contains_iff_exists_insertion.mp there
  obtain ⟨value, change, -, since⟩ := cell_since_insertion cut inserts lasts
  rw [held, Option.some.injEq] at since
  rw [since]
  calc ((insertion :: rest).filterMap (Event.write? name)).length
      ≤ (insertion :: rest).length := List.length_filterMap_le _ _
    _ ≤ ((new config).history ops).length := by rw [cut, List.length_append]; omega
    _ ≤ ops.length := by rw [history, List.length_zipWith]; omega

end Engine

/-- **The history law.**  After any run of a new engine, whatever its policy, the operations and
their answers say all about the cell of a name.

* There is a cell iff some creation was answered as an insertion and neither a removal nor a reset
  ended the cell since.
* The cell then has the value and the change of the latest write, and counts the writes since the
  insertion, the insertion included; both ways to read it say so.
* Each value that was answered as a previous one is the value of the write before.
* No revision exceeds the number of operations, so that a counter of 64 bits is wide enough for
  every run of fewer than 2⁶⁴ operations. -/
theorem history_determines_cell (config : EngineConfig) (ops : List Operation) (name : String) :
    let history := (Engine.new config).history ops
    let g := ((Engine.new config).run ops).2
    (g.contains name = true ↔ ∃ first insertion rest, history = first ++ insertion :: rest ∧
      insertion.Inserts name ∧ ∀ e ∈ rest, ¬ e.Ends name) ∧
    (∀ first insertion rest, history = first ++ insertion :: rest → insertion.Inserts name →
      (∀ e ∈ rest, ¬ e.Ends name) →
      ∃ value change,
        ((insertion :: rest).filterMap (Event.write? name)).getLast? = some (value, change) ∧
        (g.get name).1 = .ok value ∧
        (g.cell name).1 = .ok
          { name, kind := .value, value
            revision := ((insertion :: rest).filterMap (Event.write? name)).length
            lastChange := change }) ∧
    (∀ first e rest previous, history = first ++ e :: rest → e.previous? name = some previous →
      (first.filterMap (Event.write? name)).getLast?.map Prod.fst = some previous) ∧
    (∀ cell, (g.cell name).1 = .ok cell → cell.revision ≤ ops.length) := by
  intro history g
  refine ⟨Engine.contains_iff_exists_insertion, ?_, ?_, ?_⟩
  · intro first insertion rest cut inserts lasts
    obtain ⟨value, change, last, held⟩ := Engine.cell_since_insertion cut inserts lasts
    obtain ⟨read, shown⟩ := Engine.answers_of_get? held
    exact ⟨value, change, last, read, shown⟩
  · intro first e rest previous cut answered
    exact Engine.previous?_eq_getLast? cut answered
  · intro cell shown
    exact Engine.revision_le_length (Engine.get?_of_cell_eq_ok shown)

/-- A cell that is created again after its removal has a record of its second life only. -/
theorem history_determines_cell_recreated :
    let ops : List Operation := [.create "a" ⟨1⟩, .remove "a", .create "a" ⟨2⟩, .create "b" ⟨3⟩,
      .create "a" ⟨4⟩, .set "a" ⟨5⟩, .get "c"]
    (((Engine.new {}).run ops).2.cell "a").1 = .ok
      { name := "a", kind := .value, value := ⟨5⟩, revision := 3, lastChange := .assigned } := by
  intro ops
  let rest : List Event := [⟨.create "b" ⟨3⟩, .ok (.write .inserted)⟩,
    ⟨.create "a" ⟨4⟩, .ok (.write (.redefined ⟨2⟩))⟩, ⟨.set "a" ⟨5⟩, .ok (.value ⟨4⟩)⟩,
    ⟨.get "c", .error (.cellNotFound "c")⟩]
  have cut : (Engine.new {}).history ops =
      [⟨.create "a" ⟨1⟩, .ok (.write .inserted)⟩, ⟨.remove "a", .ok (.value ⟨1⟩)⟩] ++
        ⟨.create "a" ⟨2⟩, .ok (.write .inserted)⟩ :: rest := rfl
  have lasts : ∀ e ∈ rest, ¬ e.Ends "a" := by simp [rest, Event.Ends]
  obtain ⟨-, since, -, -⟩ := history_determines_cell {} ops "a"
  obtain ⟨value, change, last, -, shown⟩ := since _ _ rest cut ⟨⟨2⟩, rfl⟩ lasts
  have latest : some (value, change) = some (⟨5⟩, .assigned) := last.symm.trans rfl
  obtain ⟨rfl, rfl⟩ := Prod.mk.inj (Option.some.inj latest)
  exact shown

end NamedCells
