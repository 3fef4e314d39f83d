import NamedCells.Proofs.Lifecycle
import NamedCells.Proofs.RegistryInvariant
import NamedCells.Proofs.ReturnedStatus

/-!
# What a caller may conclude from a code

A caller from outside sees of a call little more than the code that it returns.  Here it is said
what follows from the code alone about the cells of all engines: a code that is neither that of a
success nor that of a duplicate means that nothing was changed, the code of a duplicate means
different things under the two policies, and the code of a failed allocation means that the engine
is full.

The argument needs to know why an operation was refused, which `Refusal` says; only creations are
refused for the last two of the reasons.  That a full engine holds neither more nor fewer cells than
its policy allows rests on the invariant of its registry, which holds of every engine that a handle
can have.

## Main definitions

* `Refusal` — why an operation on an engine is refused.
* `HandleTable.LivesWith calls h config` — after the calls `h` has an engine that was made with the
  policy.
* `HandleTable.cell?` — the cell that the engine of a handle has under a name.

## Main results

* `Engine.refusal_of_error` — whatever is refused is refused for one of the reasons.
* `Engine.registry_of_status`, `Engine.duplicate_of_status`, `Engine.full_of_status` — what follows
  from the status of an answer.
* `HandleTable.exists_livesWith` — every engine in a table was made with a policy and is sound.
* `HandleTable.code_tells_what_changed` — **what follows from the code alone.**
-/

namespace NamedCells

/-! ### Refusals -/

/-- Why an operation on an engine is refused. -/
inductive Refusal (g : Engine) : Operation → EngineError → Prop
  /-- The name is not well formed. -/
  | badName {op : Operation} {name : String} (about : op.name? = some name) (fault : NameFault)
    (bad : Name.fault? name = some fault) : Refusal g op (.invalidName name fault)
  /-- The policy does not take the value. -/
  | badValue {op : Operation} {name : String} (about : op.name? = some name) (value : Binary64)
    (refused : ¬ g.registry.Admits value) : Refusal g op (.nonFiniteValue name value)
  /-- There is no cell. -/
  | absent {op : Operation} {name : String} (about : op.name? = some name)
    (free : g.registry.get? name = none) : Refusal g op (.cellNotFound name)
  /-- The name is taken and the policy keeps the cell. -/
  | duplicate (name : String) (value : Binary64) (cell : Cell)
    (taken : g.registry.get? name = some cell)
    (policy : g.registry.config.redefinition = .reject) :
    Refusal g (.create name value) (.duplicateCellName name)
  /-- The name is free and there is no room. -/
  | full (name : String) (value : Binary64) (good : Name.fault? name = none)
    (admitted : g.registry.Admits value) (free : g.registry.get? name = none)
    (noRoom : g.registry.config.maxCells ≤ g.registry.size) :
    Refusal g (.create name value) (.capacityExceeded name g.registry.config.maxCells)

namespace Engine

variable {g : Engine} {op : Operation}

/-- **Whatever is refused is refused for one of these reasons.** -/
theorem refusal_of_error {e : EngineError} (refused : (g.perform op).1 = .error e) :
    Refusal g op e := by
  cases op with
  | create name value =>
    have outcome := g.registry.create_outcome name value
    simp only [perform, create] at refused
    generalize g.registry.create name value = result at outcome refused
    cases outcome with
    | badName fault bad =>
      obtain rfl := Except.error.inj refused
      exact .badName rfl fault bad
    | badValue good notAdmitted =>
      obtain rfl := Except.error.inj refused
      exact .badValue rfl value notAdmitted
    | duplicate good admitted cell taken policy =>
      obtain rfl := Except.error.inj refused
      exact .duplicate name value cell taken policy
    | full good admitted free noRoom =>
      obtain rfl := Except.error.inj refused
      exact .full name value good admitted free noRoom
    | redefined | inserted => cases refused
  | set name value =>
    have outcome := g.registry.assign_outcome name value
    simp only [perform, set] at refused
    generalize g.registry.assign name value = result at outcome refused
    cases outcome with
    | badName fault bad =>
      obtain rfl := Except.error.inj refused
      exact .badName rfl fault bad
    | badValue good notAdmitted =>
      obtain rfl := Except.error.inj refused
      exact .badValue rfl value notAdmitted
    | absent good admitted free =>
      obtain rfl := Except.error.inj refused
      exact .absent rfl free
    | assigned => cases refused
  | get name =>
    have outcome := g.registry.lookup_outcome name
    simp only [perform, get] at refused
    generalize g.registry.lookup name = result at outcome refused
    cases outcome with
    | badName fault bad =>
      obtain rfl := Except.error.inj refused
      exact .badName rfl fault bad
    | absent good free =>
      obtain rfl := Except.error.inj refused
      exact .absent rfl free
    | found => cases refused
  | cell name =>
    have outcome := g.registry.lookup_outcome name
    simp only [perform, Engine.cell] at refused
    generalize g.registry.lookup name = result at outcome refused
    cases outcome with
    | badName fault bad =>
      obtain rfl := Except.error.inj refused
      exact .badName rfl fault bad
    | absent good free =>
      obtain rfl := Except.error.inj refused
      exact .absent rfl free
    | found => cases refused
  | remove name =>
    have outcome := g.registry.remove_outcome name
    simp only [perform, remove] at refused
    generalize g.registry.remove name = result at outcome refused
    cases outcome with
    | badName fault bad =>
      obtain rfl := Except.error.inj refused
      exact .badName rfl fault bad
    | absent good free =>
      obtain rfl := Except.error.inj refused
      exact .absent rfl free
    | removed => cases refused
  | reset | report | contains | size | isEmpty | names => cases refused

/-! ### What follows from the status of an answer -/

/-- An answer with the status of neither a success nor a duplicate comes with the same cells. -/
theorem registry_of_status (failed : (g.perform op).1.status ≠ .ok)
    (single : (g.perform op).1.status ≠ .duplicateCellName) :
    (g.perform op).2.registry = g.registry := by
  have outcome := g.perform_outcome op
  generalize g.perform op = after at outcome failed single ⊢
  cases outcome with
  | redefined => exact absurd rfl single
  | inserted | assigned | removed | emptied => exact absurd rfl failed
  | refused | read | shown | reported | asked => rfl

/-- An operation on one cell that is answered with the status of a duplicate is a creation, and the
name is taken.  The policy says what became of the cell. -/
theorem duplicate_of_status (canFail : op.canFail = true)
    (duplicate : (g.perform op).1.status = .duplicateCellName) :
    ∃ name value cell, op = .create name value ∧ g.registry.get? name = some cell ∧
      (g.registry.config.redefinition = .overwrite →
        (g.perform op).2.registry = g.registry.put name (cell.write value .redefined)) ∧
      (g.registry.config.redefinition = .reject → (g.perform op).2.registry = g.registry) := by
  have outcome := g.perform_outcome op
  have reason : ∀ e, (g.perform op).1 = .error e → Refusal g op e := fun e => refusal_of_error
  generalize g.perform op = after at outcome reason duplicate ⊢
  cases outcome with
  | refused op e =>
    cases reason e rfl with
    | duplicate name value cell taken policy =>
      refine ⟨name, value, cell, rfl, taken, fun overwrite => ?_, fun _ => rfl⟩
      rw [policy] at overwrite
      cases overwrite
    | badName | badValue | absent | full => cases duplicate
  | redefined name value cell good admitted taken policy =>
    refine ⟨name, value, cell, rfl, taken, fun _ => rfl, fun reject => ?_⟩
    rw [policy] at reject
    cases reject
  | asked _ reply question =>
    rw [Operation.isQuestion_of_canFail canFail] at question
    cases question
  | reported => cases canFail
  | inserted | assigned | read | shown | removed | emptied => cases duplicate

/-- An operation on one cell that is answered with the status of a failed allocation is a creation
of a cell that could be stored if only there were room. -/
theorem full_of_status (canFail : op.canFail = true)
    (failed : (g.perform op).1.status = .allocationFailed) :
    ∃ name value, op = .create name value ∧ Name.fault? name = none ∧
      g.registry.Admits value ∧ g.registry.get? name = none ∧
      g.registry.config.maxCells ≤ g.registry.size := by
  have outcome := g.perform_outcome op
  have reason : ∀ e, (g.perform op).1 = .error e → Refusal g op e := fun e => refusal_of_error
  generalize g.perform op = after at outcome reason failed
  cases outcome with
  | refused op e =>
    cases reason e rfl with
    | full name value good admitted free noRoom =>
      exact ⟨name, value, rfl, good, admitted, free, noRoom⟩
    | badName | badValue | absent | duplicate => cases failed
  | asked _ reply question =>
    rw [Operation.isQuestion_of_canFail canFail] at question
    cases question
  | reported => cases canFail
  | inserted | redefined | assigned | read | shown | removed | emptied => cases failed

end Engine

/-! ### Requests -/

/-- A request that comes to a creation is one under the name that was passed. -/
theorem Request.Means.eq_create {request : Request} {text : String} {value : Binary64}
    (means : request.Means (.create text value)) :
    ∃ name, request = .create name value ∧ name.text? = some text := by
  cases means with
  | create named => exact ⟨_, rfl, named⟩

/-- What a request comes to is an operation on one cell, unless its answer has a status that stands
neither for a duplicate nor for a failed allocation. -/
theorem Request.Means.canFail {g : Engine} {request : Request} {op : Operation}
    (means : request.Means op)
    (either : (g.perform op).1.status = .duplicateCellName ∨
      (g.perform op).1.status = .allocationFailed) : op.canFail = true := by
  cases means with
  | create | set | get | remove => rfl
  | reset => rcases either with h | h <;> cases h
  | badName request e bad =>
    have status : (g.perform (.report e)).1.status = .invalidName := bad
    rw [status] at either
    rcases either with h | h <;> cases h
  | noPlace => rcases either with h | h <;> cases h

namespace Engine

variable {g : Engine} {config : EngineConfig}

/-- A request keeps the invariant of the registry. -/
theorem sound_serve (sound : g.registry.Sound config) (request : Request) :
    (g.serve request).2.registry.Sound config := by
  cases operation : request.isOperation with
  | true =>
    obtain ⟨op, -, served, -⟩ := g.serve_means operation
    rw [served, registry_perform]
    exact sound.applyAll _
  | false =>
    -- a question leaves the engine as it is
    cases request with
    | has | count | lastError | lastErrorCode => exact sound
    | _ => cases operation

theorem sound_serveAll (sound : g.registry.Sound config) (requests : List Request) :
    (g.serveAll requests).2.registry.Sound config := by
  induction requests generalizing g with
  | nil => exact sound
  | cons request requests ih => exact ih (sound_serve sound request)

end Engine

namespace HandleTable

variable {t : HandleTable} {h : Handle} {call : Call} {calls : List Call} {config : EngineConfig}

/-! ### Engines in a table -/

/-- After the calls, made one after the other from the beginning, the handle has an engine that was
made with the policy: a creation with this policy gave the handle out, and no later call destroyed
it. -/
def LivesWith (calls : List Call) (h : Handle) (config : EngineConfig) : Prop :=
  ∃ before creation during, calls = before ++ creation :: during ∧
    creation.creation? = some (some config) ∧
    (empty.run calls).1[before.length]? = some (.handle h) ∧ .destroy h ∉ during

/-- The cell that the engine of a handle has under a name. -/
def cell? (t : HandleTable) (h : Handle) (name : String) : Option Cell :=
  (t.resolve? h).bind fun g => g.registry.get? name

theorem livesAfter_iff : LivesAfter calls h ↔ ∃ config, LivesWith calls h config := by
  constructor
  · rintro ⟨before, creation, during, split, creates, given, spared⟩
    obtain ⟨config, denotes⟩ := Call.creates_iff.mp creates
    exact ⟨config, before, creation, during, split, denotes, given, spared⟩
  · rintro ⟨config, before, creation, during, split, denotes, given, spared⟩
    exact ⟨before, creation, during, split, Call.creates_of_creation? denotes, given, spared⟩

/-- A handle that lives has an engine, which is sound for the policy that it was made with. -/
theorem LivesWith.exists_engine (lives : LivesWith calls h config) :
    ∃ g, (empty.run calls).2.resolve? h = some g ∧ g.registry.Sound config := by
  obtain ⟨before, creation, during, rfl, denotes, given, spared⟩ := lives
  -- the table before the creation, and the one after it
  let t := (empty.run before).2
  let u := (t.register (Engine.new config)).2
  have made : t.perform creation = (.handle t.next, u) := perform_of_creation denotes
  have parts : empty.run (before ++ creation :: during) =
      ((empty.run before).1 ++ .handle t.next :: (u.run during).1, (u.run during).2) := by
    rw [run_append, run_cons, made]
  obtain rfl : t.next = h := by
    rw [parts, ← length_run empty before] at given
    simpa using given
  have fresh : t.next < u.next := Nat.lt_succ_self _
  have live : u.resolve? t.next = some (Engine.new config) := by
    rw [resolve?_register, if_pos rfl]
  rw [parts]
  exact ⟨_, (run_of_live fresh live spared).2, Engine.sound_serveAll (.empty config) _⟩

/-- The policy of a handle is that of the call that gave it out, and no other. -/
theorem LivesWith.unique {other : EngineConfig} (lives : LivesWith calls h config)
    (again : LivesWith calls h other) : config = other := by
  obtain ⟨g, live, sound⟩ := lives.exists_engine
  obtain ⟨g', live', sound'⟩ := again.exists_engine
  obtain rfl : g = g' := Option.some.inj (live.symm.trans live')
  exact sound.config_eq.symm.trans sound'.config_eq

/-- **Every engine in a table was made with a policy and is sound for it.** -/
theorem exists_livesWith {g : Engine} (live : (empty.run calls).2.resolve? h = some g) :
    ∃ config, LivesWith calls h config ∧ g.registry.Sound config := by
  have lives : LivesAfter calls h := by
    rw [← isSome_resolve?_run, live]
    rfl
  obtain ⟨config, lives⟩ := livesAfter_iff.mp lives
  obtain ⟨g', live', sound⟩ := lives.exists_engine
  obtain rfl : g' = g := Option.some.inj (live'.symm.trans live)
  exact ⟨config, lives, sound⟩

/-! ### What follows from the code -/

/-- A call on a handle leaves the engines of all other handles as they are. -/
theorem resolve?_perform_of_addressed {request : Request} {k : Handle}
    (asked : call.addressed? = some (h, request)) (apart : k ≠ h) :
    (t.perform call).2.resolve? k = t.resolve? k := by
  cases live : t.resolve? h with
  | none => rw [perform_of_dead asked live]
  | some g => rw [perform_of_live asked live, resolve?_put, if_neg apart.symm]

theorem cell?_of_live {g : Engine} (live : t.resolve? h = some g) (name : String) :
    t.cell? h name = g.registry.get? name := by
  rw [cell?, live, Option.bind_some]

/-- If the engine of a handle keeps its cells, so does the table under this handle. -/
theorem cell?_of_registry_eq {u : HandleTable} {g k : Engine} (before : t.resolve? h = some g)
    (after : u.resolve? h = some k) (same : k.registry = g.registry) (name : String) :
    u.cell? h name = t.cell? h name := by
  rw [cell?_of_live before, cell?_of_live after, same]

/-- If the engine of a handle stores a cell, this is all that changes under the handle. -/
theorem cell?_of_registry_put {u : HandleTable} {g k : Engine} {name : String} {cell : Cell}
    (before : t.resolve? h = some g) (after : u.resolve? h = some k)
    (stored : k.registry = g.registry.put name cell) :
    u.cell? h name = some cell ∧ ∀ other, other ≠ name → u.cell? h other = t.cell? h other := by
  constructor
  · rw [cell?_of_live after, stored, Registry.get?_put_self]
  · intro other apart
    rw [cell?_of_live before, cell?_of_live after, stored, Registry.get?_put, if_neg apart.symm]

/-- On a live handle a call that returns a status is an operation on the engine. -/
theorem exists_means_of_live {g : Engine} {request : Request}
    (asked : call.addressed? = some (h, request)) (operation : request.isOperation = true)
    (live : t.resolve? h = some g) :
    ∃ op, request.Means op ∧ (t.perform call).1.status? = some (g.perform op).1.status ∧
      (t.perform call).2.resolve? h = some (g.perform op).2 := by
  obtain ⟨op, means, served, returned⟩ := g.serve_means operation
  rw [perform_of_live asked live, resolve?_put, if_pos rfl, served]
  exact ⟨op, means, returned, rfl⟩

/-- **What follows from the code alone.**  After any calls, made one after the other from the
beginning, a call that creates, sets, reads or removes a cell of a handle, or removes all of them,
returns a status, whatever the handle and the arguments.

* Engines of other handles are left as they are.
* If the code of the status is neither 0 nor 103 the cells of the handle are left as they are.
* If it is 103 the call was a creation under a name that was taken.  If the engine was made to
  overwrite, the cell under the name has the value that was passed and one more revision, and all
  other cells are as they were.  If it was made to reject, all cells are.
* If it is 200 the call was a creation under a well-formed name that was free, with a value that the
  engine admits, and the engine held exactly as many cells as it may. -/
theorem code_tells_what_changed (calls : List Call) {h : Handle} {call : Call} {request : Request}
    (asked : call.addressed? = some (h, request)) (operation : request.isOperation = true) :
    let t := (empty.run calls).2
    let after := (t.perform call).2
    ∃ status, (t.perform call).1.status? = some status ∧
      (∀ k, k ≠ h → after.resolve? k = t.resolve? k) ∧
      (status.code ≠ 0 → status.code ≠ 103 → ∀ name, after.cell? h name = t.cell? h name) ∧
      (status.code = 103 → ∃ config argument value name cell,
        LivesWith calls h config ∧ request = .create argument value ∧
        argument.text? = some name ∧ t.cell? h name = some cell ∧
        (config.redefinition = .overwrite →
          after.cell? h name = some { cell with
            value := value, revision := cell.revision + 1, lastChange := .redefined } ∧
          ∀ other, other ≠ name → after.cell? h other = t.cell? h other) ∧
        (config.redefinition = .reject → ∀ other, after.cell? h other = t.cell? h other)) ∧
      (status.code = 200 → ∃ config argument value name,
        LivesWith calls h config ∧ request = .create argument value ∧
        argument.text? = some name ∧ Name.fault? name = none ∧ t.cell? h name = none ∧
        (config.allowNonFinite = true ∨ value.isFinite = true) ∧
        t.count h = config.maxCells) := by
  intro t after
  have others : ∀ k, k ≠ h → after.resolve? k = t.resolve? k :=
    fun k apart => resolve?_perform_of_addressed asked apart
  cases live : t.resolve? h with
  | none =>
    -- the code of a dead handle is none of those that mean something else
    have unchanged : t.perform call = (request.refusal, t) := perform_of_dead asked live
    refine ⟨.invalidEngineHandle, ?_, others, fun _ _ name => ?_, ?_, ?_⟩
    · rw [unchanged]
      exact (refusal_of_isOperation operation).1
    · change (t.perform call).2.cell? h name = t.cell? h name
      rw [unchanged]
    · exact fun code => absurd code (by decide)
    · exact fun code => absurd code (by decide)
  | some g =>
    obtain ⟨config, lives, sound⟩ := exists_livesWith live
    obtain ⟨op, means, returned, live'⟩ := exists_means_of_live asked operation live
    refine ⟨(g.perform op).1.status, returned, others, ?_, ?_, ?_⟩
    · intro failed single
      apply cell?_of_registry_eq live live'
      apply Engine.registry_of_status
      · exact fun ok => failed (by rw [ok]; rfl)
      · exact fun duplicate => single (by rw [duplicate]; rfl)
    · intro code
      have duplicate : (g.perform op).1.status = .duplicateCellName := Status.code_injective code
      obtain ⟨name, value, cell, rfl, taken, overwritten, rejected⟩ :=
        Engine.duplicate_of_status (means.canFail (.inl duplicate)) duplicate
      obtain ⟨argument, created, named⟩ := means.eq_create
      rw [sound.config_eq] at overwritten rejected
      refine ⟨config, argument, value, name, cell, lives, created, named, ?_, ?_, ?_⟩
      · rw [cell?_of_live live, taken]
      · exact fun overwrite => cell?_of_registry_put live live' (overwritten overwrite)
      · exact fun reject => cell?_of_registry_eq live live' (rejected reject)
    · intro code
      have failed : (g.perform op).1.status = .allocationFailed := Status.code_injective code
      obtain ⟨name, value, rfl, good, admitted, free, noRoom⟩ :=
        Engine.full_of_status (means.canFail (.inr failed)) failed
      obtain ⟨argument, created, named⟩ := means.eq_create
      obtain rfl := sound.config_eq
      refine ⟨_, argument, value, name, lives, created, named, good, ?_, admitted, ?_⟩
      · rw [cell?_of_live live, free]
      · have size : t.count h = g.registry.size := by
          rw [count, live]
          rfl
        rw [size]
        exact Nat.le_antisymm sound.capacity noRoom

/-- Two engines, one that overwrites and one that rejects and has room for a single cell, each with
a cell.  To create the first cell once more returns the same code on both, and only on one of them
is it another cell then.  There is no room for a second cell on the other. -/
theorem code_tells_what_changed_two_policies :
    let calls : List Call :=
      [.createEngine,
        .createEngineWithOptions (some { redefinition := redefineReject, maxCells := 1 }),
        .create 1 (some [97]) ⟨1⟩, .create 2 (some [97]) ⟨1⟩]
    let t := (empty.run calls).2
    ((t.perform (.create 1 (some [97]) ⟨2⟩)).1 = .code .duplicateCellName ∧
      (t.perform (.create 1 (some [97]) ⟨2⟩)).2.cell? 1 "a" =
        some ⟨"a", .value, ⟨2⟩, 2, .redefined⟩ ∧
      (t.perform (.create 1 (some [97]) ⟨2⟩)).2.resolve? 2 = t.resolve? 2) ∧
    ((t.perform (.create 2 (some [97]) ⟨2⟩)).1 = .code .duplicateCellName ∧
      (t.perform (.create 2 (some [97]) ⟨2⟩)).2.cell? 2 "a" = t.cell? 2 "a") ∧
    ((t.perform (.create 2 (some [98]) ⟨2⟩)).1 = .code .allocationFailed ∧ t.count 2 = 1) := by
  intro calls t
  have first : LivesWith calls 1 {} :=
    ⟨[], .createEngine, calls.drop 1, rfl, rfl, by decide +kernel, by decide⟩
  have second : LivesWith calls 2 ⟨.reject, false, 1⟩ :=
    ⟨[.createEngine], _, calls.drop 2, rfl, rfl, by decide +kernel, by decide⟩
  have text : NameArgument.text? (some [97]) = some "a" := by decide +kernel
  have held : t.cell? 1 "a" = some ⟨"a", .value, ⟨1⟩, 1, .created⟩ := by decide +kernel
  have firstReply : (t.perform (.create 1 (some [97]) ⟨2⟩)).1 = .code .duplicateCellName := by
    decide +kernel
  have secondReply : (t.perform (.create 2 (some [97]) ⟨2⟩)).1 = .code .duplicateCellName := by
    decide +kernel
  have fullReply : (t.perform (.create 2 (some [98]) ⟨2⟩)).1 = .code .allocationFailed := by
    decide +kernel
  refine ⟨⟨firstReply, ?_⟩, ⟨secondReply, ?_⟩, ⟨fullReply, ?_⟩⟩
  · have asked : Call.addressed? (.create 1 (some [97]) ⟨2⟩) =
        some (1, .create (some [97]) ⟨2⟩) := rfl
    obtain ⟨status, returned, others, -, duplicate, -⟩ := code_tells_what_changed calls asked rfl
    rw [firstReply] at returned
    obtain rfl := Option.some.inj returned
    obtain ⟨config, argument, value, name, cell, lives, created, named, taken, overwrite, -⟩ :=
      duplicate rfl
    obtain rfl := first.unique lives
    obtain ⟨rfl, rfl⟩ := Request.create.inj created
    obtain rfl : "a" = name := Option.some.inj (text.symm.trans named)
    obtain rfl := Option.some.inj (held.symm.trans taken)
    exact ⟨(overwrite rfl).1, others 2 (by decide)⟩
  · have asked : Call.addressed? (.create 2 (some [97]) ⟨2⟩) =
        some (2, .create (some [97]) ⟨2⟩) := rfl
    obtain ⟨status, returned, -, -, duplicate, -⟩ := code_tells_what_changed calls asked rfl
    rw [secondReply] at returned
    obtain rfl := Option.some.inj returned
    obtain ⟨config, argument, value, name, cell, lives, created, named, taken, -, reject⟩ :=
      duplicate rfl
    obtain rfl := second.unique lives
    exact reject rfl "a"
  · have asked : Call.addressed? (.create 2 (some [98]) ⟨2⟩) =
        some (2, .create (some [98]) ⟨2⟩) := rfl
    obtain ⟨status, returned, -, -, -, full⟩ := code_tells_what_changed calls asked rfl
    rw [fullReply] at returned
    obtain rfl := Option.some.inj returned
    obtain ⟨config, argument, value, name, lives, created, named, good, free, admitted, size⟩ :=
      full rfl
    obtain rfl := second.unique lives
    exact size

end HandleTable

end NamedCells
