import NamedCells.Proofs.LatestOperation
import NamedCells.Proofs.RegistryInvariant
import NamedCells.Session

/-!
# What a session prints and what its channel says

A reader of a session sees the message of a refusal when it is printed, and may ask for it later,
when it is read back from the channel.  The channel leaves out NULs, and it is overwritten by every
operation on the engine; so the two agree because no message that a session can print holds a NUL,
and because the commands that only ask leave the channel alone, as do lines that are no commands.

## Main definitions

* `Command.operation?` — the operation on the engine that a command is.
* `Outcome.isQuiet` — the outcomes of a success that there is nothing to say about.
* `CommandOutcome` — what carrying out a command can come to.
* `Session.respond`, `Session.afterAll` — what was read is acted upon, be it a command or none.

## Main results

* `Session.execute_outcome` — every command comes to one of its outcomes.
* `Session.afterAll_eq_run` — a session is a run of its engine.
* `printed_agrees_with_channel` — **what is printed agrees with the channel.**
-/

namespace NamedCells

/-- The operation on the engine that a command is.  The other commands only ask. -/
def Command.operation? : Command → Option Operation
  | .create name value => some (.create name value)
  | .set name value => some (.set name value)
  | .get name => some (.get name)
  | .inspect name => some (.cell name)
  | .remove name => some (.remove name)
  | .reset => some .reset
  | .has _ | .count | .list | .error => none

/-- The outcomes of a success that there is nothing to say about. -/
def Outcome.isQuiet : Outcome → Bool
  | .done | .output _ => true
  | .advisory _ | .failed _ => false

/-! ### One command -/

/-- What carrying out a command can come to. -/
inductive CommandOutcome (g : Engine) : Command → Outcome × Engine → Prop
  /-- The operation was refused, for a reason without a text from outside. -/
  | refused {c : Command} {op : Operation} (acts : c.operation? = some op) (e : EngineError)
    (fixed : e.freeText = "") : CommandOutcome g c (.failed e.message, ⟨g.registry, .ofError e⟩)
  /-- A cell was created once more. -/
  | redefined (name : String) (value : Binary64) (cell : Cell)
    (taken : g.registry.get? name = some cell)
    (policy : g.registry.config.redefinition = .overwrite)
    {channel : Channel}
    (told : channel = .ofMessage .duplicateCellName (redefinitionNotice name cell.value value)) :
    CommandOutcome g (.create name value)
      (.advisory channel.message, ⟨g.registry.put name (cell.write value .redefined), channel⟩)
  /-- The operation succeeded and there is nothing to say about it. -/
  | succeeded {c : Command} {op : Operation} (acts : c.operation? = some op) (outcome : Outcome)
    (quiet : outcome.isQuiet = true) (registry : Registry) :
    CommandOutcome g c (outcome, ⟨registry, .clear⟩)
  /-- A question was answered. -/
  | asked {c : Command} (asks : c.operation? = none) (outcome : Outcome)
    (quiet : outcome.isQuiet = true) : CommandOutcome g c (outcome, g)

namespace Session

/-- **Every command comes to one of its outcomes.** -/
theorem execute_outcome (g : Engine) (c : Command) : CommandOutcome g c (execute g c) := by
  cases c with
  | create name value =>
    have outcome := g.registry.create_outcome name value
    simp only [execute, Engine.create]
    generalize g.registry.create name value = result at outcome ⊢
    cases outcome with
    | inserted => exact .succeeded rfl _ rfl _
    | redefined good admitted cell taken policy => exact .redefined name value cell taken policy rfl
    | badName | badValue | duplicate | full => exact .refused rfl _ rfl
  | set name value =>
    have outcome := g.registry.assign_outcome name value
    simp only [execute, Engine.set]
    generalize g.registry.assign name value = result at outcome ⊢
    cases outcome with
    | assigned => exact .succeeded rfl _ rfl _
    | badName | badValue | absent => exact .refused rfl _ rfl
  | get name =>
    have outcome := g.registry.lookup_outcome name
    simp only [execute, Engine.get]
    generalize g.registry.lookup name = result at outcome ⊢
    cases outcome with
    | found => exact .succeeded rfl _ rfl _
    | badName | absent => exact .refused rfl _ rfl
  | inspect name =>
    have outcome := g.registry.lookup_outcome name
    simp only [execute, Engine.cell]
    generalize g.registry.lookup name = result at outcome ⊢
    cases outcome with
    | found => exact .succeeded rfl _ rfl _
    | badName | absent => exact .refused rfl _ rfl
  | remove name =>
    have outcome := g.registry.remove_outcome name
    simp only [execute, Engine.remove]
    generalize g.registry.remove name = result at outcome ⊢
    cases outcome with
    | removed => exact .succeeded rfl _ rfl _
    | badName | absent => exact .refused rfl _ rfl
  | reset => exact .succeeded rfl _ rfl _
  | has | count | error => exact .asked rfl _ rfl
  | list =>
    simp only [execute]
    split <;> exact .asked rfl _ rfl

/-- A command that is an operation leaves the engine that the operation leaves. -/
theorem execute_of_operation? (g : Engine) {c : Command} {op : Operation}
    (acts : c.operation? = some op) : (execute g c).2 = (g.perform op).2 := by
  cases c with
  | create name value =>
    obtain rfl := Option.some.inj acts
    simp only [execute, Engine.perform]
    rcases g.create name value with ⟨_ | write, after⟩
    · rfl
    · cases write <;> rfl
  | set | get | inspect | remove | reset =>
    obtain rfl := Option.some.inj acts
    rfl
  | has | count | list | error => cases acts

variable {g after : Engine} {c : Command} {outcome : Outcome} {m : String}

/-- What is printed about a command is what the channel says after it. -/
theorem lastError_of_told (done : execute g c = (outcome, after))
    (told : outcome = .failed m ∨ outcome = .advisory m) :
    after.lastError = m ∧ after.lastStatus ≠ .ok := by
  have possible := execute_outcome g c
  rw [done] at possible
  cases possible with
  | refused acts e fixed =>
    obtain rfl : e.message = m := by simpa using told
    have noNul : '\x00' ∉ e.freeText.toList := by simp [fixed]
    exact ⟨e.withoutNul_message noNul, e.status_ne_ok⟩
  | redefined name value cell taken policy notice =>
    subst notice
    obtain rfl : (Channel.ofMessage .duplicateCellName
      (redefinitionNotice name cell.value value)).message = m := by simpa using told
    exact ⟨rfl, Status.noConfusion⟩
  | succeeded acts _ quiet registry => rcases told with rfl | rfl <;> cases quiet
  | asked asks _ quiet => rcases told with rfl | rfl <;> cases quiet

/-- Only a creation of a cell that exists leaves something to say about a success. -/
theorem redefined_of_advisory (done : execute g c = (.advisory m, after)) :
    g.registry.config.redefinition = .overwrite ∧
      ∃ name value cell, c = .create name value ∧ g.registry.get? name = some cell ∧
        after.registry = g.registry.put name (cell.write value .redefined) := by
  have possible := execute_outcome g c
  rw [done] at possible
  generalize told : Outcome.advisory m = outcome at possible
  cases possible with
  | redefined name value cell taken policy => exact ⟨policy, name, value, cell, rfl, taken, rfl⟩
  | refused => cases told
  | succeeded acts _ quiet => subst told; cases quiet
  | asked asks _ quiet => subst told; cases quiet

/-- A refused command leaves all cells as they were. -/
theorem registry_of_failed (done : execute g c = (.failed m, after)) :
    after.registry = g.registry := by
  have possible := execute_outcome g c
  rw [done] at possible
  generalize told : Outcome.failed m = outcome at possible
  cases possible with
  | refused => rfl
  | redefined => cases told
  | succeeded acts _ quiet => subst told; cases quiet
  | asked => rfl

/-- After a success that there is nothing to say about the channel is clear. -/
theorem channel_of_isQuiet (done : execute g c = (outcome, after)) (acts : c.operation? ≠ none)
    (quiet : outcome.isQuiet = true) : after.channel = .clear := by
  have possible := execute_outcome g c
  rw [done] at possible
  cases possible with
  | refused | redefined => cases quiet
  | succeeded => rfl
  | asked asks => exact absurd asks acts

/-- A command that only asks leaves the engine as it is. -/
theorem execute_of_asks (g : Engine) (asks : c.operation? = none) : (execute g c).2 = g := by
  cases c with
  | has | count | list | error => rfl
  | _ => cases asks

theorem execute_error_of_ne_ok (failed : g.lastStatus ≠ .ok) :
    execute g .error = (.output (g.lastStatus.name ++ ": " ++ g.lastError), g) := by
  have notOk : g.channel.status.isOk = false := decide_eq_false failed
  simp only [execute, Channel.summary, notOk]
  rfl

/-! ### All that was read -/

/-- Act on what was read: carry out a command, or say why there is none. -/
def respond (g : Engine) : Except CommandError Command → Outcome × Engine
  | .ok c => execute g c
  | .error e => (.failed e.message, g)

/-- The engine after acting on all that was read. -/
def afterAll (g : Engine) (read : List (Except CommandError Command)) : Engine :=
  read.foldl (fun g x => (respond g x).2) g

/-- The operations among all that was read. -/
def operations (read : List (Except CommandError Command)) : List Operation :=
  read.filterMap fun x => x.toOption.bind Command.operation?

/-- A segment is read, and what was read is acted upon. -/
theorem runSegment_eq_respond (g : Engine) (segment : String) :
    runSegment g segment = respond g (Command.parse segment) := by
  unfold runSegment
  cases Command.parse segment <;> rfl

/-- **A session is a run of its engine** with the operations among the commands. -/
theorem afterAll_eq_run (g : Engine) (read : List (Except CommandError Command)) :
    afterAll g read = (g.run (operations read)).2 := by
  induction read generalizing g with
  | nil => rfl
  | cons x rest ih =>
    have step : afterAll g (x :: rest) = afterAll (respond g x).2 rest := rfl
    rw [step, ih]
    cases x with
    | error e => rfl
    | ok c =>
      rcases acts : c.operation? with _ | op
      · have skipped : operations (.ok c :: rest) = operations rest := by
          simp [operations, Except.toOption, acts]
        rw [skipped, respond, execute_of_asks g acts]
      · have first : operations (.ok c :: rest) = op :: operations rest := by
          simp [operations, Except.toOption, acts]
        rw [first, Engine.run_cons, respond, execute_of_operation? g acts]

end Session

/-- The policy of an engine stays the same. -/
theorem Engine.config_run (config : EngineConfig) (ops : List Operation) :
    ((Engine.new config).run ops).2.registry.config = config :=
  (sound_run config ops).config_eq

/-- **What is printed agrees with the channel.**  Let a session begin with an engine whose policy
was accepted, and act on anything that was read: commands, and lines that are none.  For whatever
command comes next:

* If it was refused, or a notice was printed, the text is that in the channel, whose status is not
  that of a success, and the command `error` would print the status and this text.
* A notice is printed only if a cell was created once more and the policy is to overwrite.  The cell
  has the new value then, and one more revision.
* If it was refused, all cells are as before.
* If it is an operation that succeeded without a notice, the command `error` would print `OK`.
* If it only asks, the engine is as before.

A line that is no command leaves the engine as it is.  So the command `error` prints the remark on
the latest operation that was carried out, no matter what else was read after it. -/
theorem printed_agrees_with_channel {config : EngineConfig} {start : Engine}
    (accepted : Engine.make config = .ok start) (read : List (Except CommandError Command)) :
    let g := Session.afterAll start read
    (∀ c outcome after, Session.execute g c = (outcome, after) →
      (∀ m, outcome = .failed m ∨ outcome = .advisory m →
        after.lastError = m ∧ after.lastStatus ≠ .ok ∧
          Session.execute after .error =
            (.output (after.lastStatus.name ++ ": " ++ m), after)) ∧
      (∀ m, outcome = .advisory m → config.redefinition = .overwrite ∧
        ∃ name value cell, c = .create name value ∧ g.registry.get? name = some cell ∧
          after.registry = g.registry.put name { cell with
            value := value, revision := cell.revision + 1, lastChange := .redefined }) ∧
      (∀ m, outcome = .failed m → after.registry = g.registry) ∧
      (c.operation? ≠ none → outcome.isQuiet = true →
        Session.execute after .error = (.output "OK", after)) ∧
      (c.operation? = none → after = g)) ∧
    (∀ line e, Command.parse line = .error e →
      Session.runSegment g line = (.failed e.message, g)) ∧
    Session.execute g .error =
      (.output (((Engine.latest? (start.history (Session.operations read))).map
        Event.remark).getD ⟨.ok, ""⟩).summary, g) := by
  intro g
  obtain rfl : start = Engine.new config := by
    unfold Engine.make at accepted
    split at accepted
    · cases accepted
    · exact (Except.ok.inj accepted).symm
  have run : g = ((Engine.new config).run (Session.operations read)).2 :=
    Session.afterAll_eq_run _ read
  refine ⟨fun c outcome after done => ⟨?_, ?_, ?_, ?_, ?_⟩, ?_, ?_⟩
  · intro m told
    obtain ⟨rfl, failed⟩ := Session.lastError_of_told done told
    exact ⟨rfl, failed, Session.execute_error_of_ne_ok failed⟩
  · rintro m rfl
    have policy : g.registry.config = config := by
      rw [run]
      exact Engine.config_run config _
    obtain ⟨overwrite, redefined⟩ := Session.redefined_of_advisory done
    rw [policy] at overwrite
    exact ⟨overwrite, redefined⟩
  · rintro m rfl
    exact Session.registry_of_failed done
  · intro acts quiet
    have clear : after.channel = .clear := Session.channel_of_isQuiet done acts quiet
    simp only [Session.execute, clear]
    rfl
  · intro asks
    rw [← Session.execute_of_asks g asks, done]
  · intro line e noCommand
    rw [Session.runSegment_eq_respond, noCommand]
    rfl
  · have channel : g.channel = ((Engine.latest? ((Engine.new config).history
        (Session.operations read))).map Event.remark).getD ⟨.ok, ""⟩ := by
      rw [run]
      exact (Engine.new config).channel_run _
    rw [← channel]
    rfl

/-- A cell is created twice and a line is misspelt; then a name with a NUL in it is refused, and a
cell is asked for that does not exist. -/
theorem printed_agrees_with_channel_refused :
    let read := ["create a 1", "create a 2", "gte a", "count"].map Command.parse
    let g := Session.afterAll (Engine.new {}) read
    let next := Session.execute g (.set "b\x00" ⟨1⟩)
    let refusal := EngineError.invalidName "b\x00" (.control '\x00')
    Engine.make {} = .ok (Engine.new {}) ∧
      Session.execute g .error =
        (.output ("DuplicateCellName: " ++ redefinitionNotice "a" (.ofNat 1) (.ofNat 2)), g) ∧
      next.1 = .failed refusal.message ∧ next.2.registry = g.registry ∧
      Session.execute next.2 .error = (.output ("InvalidName: " ++ refusal.message), next.2) := by
  intro read g next refusal
  have accepted : Engine.make {} = .ok (Engine.new {}) := rfl
  obtain ⟨each, -, latest⟩ := printed_agrees_with_channel accepted read
  have failed : next.1 = .failed refusal.message := rfl
  obtain ⟨told, -, kept, -⟩ := each (.set "b\x00" ⟨1⟩) next.1 next.2 (Prod.eta next).symm
  have status : next.2.lastStatus = .invalidName := rfl
  obtain ⟨-, -, printed⟩ := told refusal.message (.inl failed)
  rw [status] at printed
  refine ⟨accepted, latest.trans ?_, failed, kept refusal.message failed, printed⟩
  exact congrArg (fun text => (Outcome.output text, g)) (by decide +kernel)

end NamedCells
