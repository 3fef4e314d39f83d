import NamedCells.HandleTable
import NamedCells.Proofs.Utf8Reading

/-!
# Requests to the engine of a handle

A call on a handle is a request to one engine.  Here a request is carried out on an engine alone,
with no table: each is at most one operation of `Engine.perform`, whose answer is then put into the
form that callers know.  A call of the table comes to one of a few outcomes, and on a live handle
its outcome is the request carried out on the engine of the handle.

## Main definitions

* `Request` — what a call asks of an engine, without the handle.
* `NameArgument.operation` — the operation on a name that a caller passed.
* `Engine.serve`, `Engine.serveAll` — requests carried out on one engine.
* `Call.request?`, `Call.creation?` — the request to a handle, and the policy of a new engine, that
  a call is.
* `CallOutcome` — what a call can come to.

## Main results

* `HandleTable.perform_outcome` — every call comes to one of its outcomes.
* `HandleTable.resolve?_put`, `HandleTable.resolve?_register`, `HandleTable.resolve?_release` —
  which engines a step of the table changes.
-/

namespace NamedCells

/-! ### Requests -/

/-- What a call asks of an engine. -/
inductive Request where
  | create (name : NameArgument) (value : Binary64)
  | set (name : NameArgument) (value : Binary64)
  | get (name : NameArgument) (hasOut : Bool)
  | remove (name : NameArgument)
  | reset
  | has (name : NameArgument)
  | count
  | lastError
  | lastErrorCode
  deriving DecidableEq, Repr

/-- The operation `act` on the name that a caller passed, or the report that there is no such name:
there is no pointer, or the bytes before the first NUL are no text. -/
def NameArgument.operation (act : String → Operation) : NameArgument → Operation
  | none => .report (.invalidName "" .missing)
  | some bytes =>
    let counted := bytes.takeWhile (· ≠ 0)
    match String.fromUTF8? counted.toByteArray with
    | some name => act name
    | none => .report (.invalidName (String.ofList (Utf8.decodeLossy counted)) .notUtf8)

/-- The text that a caller passed as a name, if it is one. -/
def NameArgument.text? (name : NameArgument) : Option String :=
  name.bind fun bytes => String.fromUTF8? (bytes.takeWhile (· ≠ 0)).toByteArray

/-- The status under which callers see an answer.  A report has a status of its own, and so has a
creation. -/
def Answer.status : Answer → Status
  | .ok (.write write) => write.status
  | .ok (.status status) => status
  | .ok _ => .ok
  | .error e => e.status

/-- The value that callers find in an answer. -/
def Answer.value? : Answer → Option Binary64
  | .ok (.value value) => some value
  | _ => none

namespace Engine

/-- Carry out a request.  The last four are questions, which leave the engine as it is. -/
def serve (g : Engine) : Request → CallReply × Engine
  | .create name value =>
    let (answer, g) := g.perform (name.operation fun name => .create name value)
    (.code answer.status, g)
  | .set name value =>
    let (answer, g) := g.perform (name.operation fun name => .set name value)
    (.code answer.status, g)
  | .get name hasOut =>
    let (answer, g) := g.perform
      (name.operation fun name => if hasOut then .get name else .report HandleTable.missingOut)
    (.codeAndOut answer.status answer.value?, g)
  | .remove name =>
    let (answer, g) := g.perform (name.operation .remove)
    (.code answer.status, g)
  | .reset =>
    let (answer, g) := g.perform .reset
    (.code answer.status, g)
  | .has name => (.flag (name.text?.any g.contains), g)
  | .count => (.count g.size, g)
  | .lastError => (.text g.lastError, g)
  | .lastErrorCode => (.code g.lastStatus, g)

/-- Carry out requests one after the other. -/
def serveAll (g : Engine) : List Request → List CallReply × Engine
  | [] => ([], g)
  | request :: requests =>
    let (reply, g) := g.serve request
    let (replies, g) := g.serveAll requests
    (reply :: replies, g)

theorem serveAll_cons (g : Engine) (request : Request) (requests : List Request) :
    g.serveAll (request :: requests) =
      ((g.serve request).1 :: ((g.serve request).2.serveAll requests).1,
        ((g.serve request).2.serveAll requests).2) := rfl

end Engine

/-- What is answered to a request that has no engine. -/
def Request.refusal : Request → CallReply
  | .get .. => .codeAndOut .invalidEngineHandle none
  | .has _ => .flag false
  | .count => .count 0
  | .lastError => .text Status.invalidEngineHandle.description
  | _ => .code .invalidEngineHandle

/-! ### Calls -/

namespace Call

/-- The handle that a call passes a request to, and the request. -/
def addressed? : Call → Option (Handle × Request)
  | .create h name value => some (h, .create name value)
  | .set h name value => some (h, .set name value)
  | .get h name hasOut => some (h, .get name hasOut)
  | .remove h name => some (h, .remove name)
  | .reset h => some (h, .reset)
  | .has h name => some (h, .has name)
  | .count h => some (h, .count)
  | .lastError h => some (h, .lastError)
  | .lastErrorCode h => some (h, .lastErrorCode)
  | .createEngine | .createEngineWithOptions _ | .destroy _ | .describe _ | .initLogging _ => none

/-- The request to a handle that a call is. -/
def request? (h : Handle) (call : Call) : Option Request :=
  match call.addressed? with
  | some (k, request) => if k = h then some request else none
  | none => none

/-- The policy that a call makes an engine with, which is none if its numbers denote none.  Only a
creation has one. -/
def creation? : Call → Option (Option EngineConfig)
  | .createEngine => some (some {})
  | .createEngineWithOptions none => some (some {})
  | .createEngineWithOptions (some options) => some options.config?
  | _ => none

theorem request?_eq_some_iff {h : Handle} {call : Call} {request : Request} :
    call.request? h = some request ↔ call.addressed? = some (h, request) := by
  unfold request?
  cases call.addressed? with
  | none => simp
  | some pair =>
    obtain ⟨k, asked⟩ := pair
    by_cases same : k = h
    · simp [same]
    · simp [same]

end Call

/-! ### Arguments -/

/-- Which policy the numbers of a caller denote: the one with these fields, if there is a code for
what creating does and there is room for a cell. -/
theorem EngineOptions.config?_eq_some_iff {options : EngineOptions} {config : EngineConfig} :
    options.config? = some config ↔
      Redefinition.ofCode? options.redefinition = some config.redefinition ∧
        options.allowNonFinite = config.allowNonFinite ∧ options.maxCells = config.maxCells ∧
        config.fault? = none := by
  obtain ⟨redefinition, allowNonFinite, maxCells⟩ := config
  unfold config?
  cases Redefinition.ofCode? options.redefinition with
  | none => simp
  | some denoted =>
    simp only [Option.bind_eq_bind, Option.bind_some, Option.ite_none_right_eq_some,
      Option.isNone_iff_eq_none, Option.some.injEq, EngineConfig.mk.injEq]
    constructor
    · rintro ⟨sound, rfl, rfl, rfl⟩
      exact ⟨rfl, rfl, rfl, sound⟩
    · rintro ⟨rfl, rfl, rfl, sound⟩
      exact ⟨sound, rfl, rfl, rfl⟩

namespace NameArgument

/-- The operation on a name, by what the name decodes to. -/
theorem operation_eq (act : String → Operation) (name : NameArgument) :
    name.operation act =
      match name.decode with
      | .ok name => act name
      | .error e => .report e := by
  cases name with
  | none => rfl
  | some bytes =>
    unfold operation decode
    dsimp only
    rw [Utf8.fromUTF8?_toByteArray]
    cases Utf8.decode? (bytes.takeWhile (· ≠ 0)) <;> rfl

/-- The text of a name is what the name decodes to. -/
theorem text?_eq (name : NameArgument) :
    name.text? =
      match name.decode with
      | .ok name => some name
      | .error _ => none := by
  cases name with
  | none => rfl
  | some bytes =>
    unfold text? decode
    dsimp only [Option.bind_some]
    rw [Utf8.fromUTF8?_toByteArray]
    cases Utf8.decode? (bytes.takeWhile (· ≠ 0)) <;> rfl

end NameArgument

/-! ### Tables -/

namespace HandleTable

variable {t : HandleTable} {h k : Handle} {g : Engine}

/-- The table with another engine in the place of a handle. -/
def put (t : HandleTable) (h : Handle) (g : Engine) : HandleTable :=
  { t with live := t.live.insert h g }

@[simp] theorem next_put : (t.put h g).next = t.next := rfl

@[simp] theorem next_register : (t.register g).2.next = t.next + 1 := rfl

@[simp] theorem next_release : (t.release h).next = t.next := rfl

/-- Putting an engine in the place of a handle changes what is behind this handle only. -/
theorem resolve?_put : (t.put h g).resolve? k = if h = k then some g else t.resolve? k := by
  simp [put, resolve?, Std.ExtTreeMap.getElem?_insert]

/-- A new engine is behind the next handle, and what is behind other handles stays. -/
theorem resolve?_register :
    (t.register g).2.resolve? k = if t.next = k then some g else t.resolve? k := by
  simp [register, resolve?, Std.ExtTreeMap.getElem?_insert]

/-- Making a handle dead changes what is behind this handle only. -/
theorem resolve?_release :
    (t.release h).resolve? k = if h = k then none else t.resolve? k := by
  simp [release, resolve?, Std.ExtTreeMap.getElem?_erase]

/-- Nothing changes if the engine stays. -/
theorem put_eq_self (live : t.resolve? h = some g) : t.put h g = t := by
  have same : t.live.insert h g = t.live := by
    apply Std.ExtTreeMap.ext_getElem?
    intro k
    rw [Std.ExtTreeMap.getElem?_insert]
    split
    · rename_i equal
      rw [← Std.LawfulEqCmp.eq_of_compare equal]
      exact live.symm
    · rfl
  unfold put
  rw [same]

/-! ### Calls on a live handle -/

theorem onEngine_of_live {α : Type} (live : t.resolve? h = some g) (dead : α)
    (act : Engine → α × Engine) :
    t.onEngine h dead act = ((act g).1, t.put h (act g).2) := by
  unfold onEngine
  rw [live]
  rfl

theorem onEngine_of_dead {α : Type} (dead : t.resolve? h = none) (refusal : α)
    (act : Engine → α × Engine) : t.onEngine h refusal act = (refusal, t) := by
  unfold onEngine
  rw [dead]

/-- A call with a name is the operation on the name, if it is the operation on every name that can
be passed on. -/
theorem onName_of_live (live : t.resolve? h = some g) (name : NameArgument)
    {act : Engine → String → Status × Engine} {op : String → Operation}
    (agree : ∀ name, act g name = ((g.perform (op name)).1.status, (g.perform (op name)).2)) :
    t.onName h name act =
      ((g.perform (name.operation op)).1.status, t.put h (g.perform (name.operation op)).2) := by
  unfold onName
  rw [onEngine_of_live live, NameArgument.operation_eq]
  cases name.decode with
  | ok name =>
    dsimp only
    rw [agree]
  | error e => rfl

theorem create_of_live (live : t.resolve? h = some g) (name : NameArgument) (value : Binary64) :
    let answer := g.perform (name.operation fun name => .create name value)
    t.create h name value = (answer.1.status, t.put h answer.2) := by
  refine onName_of_live live name fun name => ?_
  simp only [Engine.perform]
  cases (g.create name value).1 <;> rfl

theorem set_of_live (live : t.resolve? h = some g) (name : NameArgument) (value : Binary64) :
    let answer := g.perform (name.operation fun name => .set name value)
    t.set h name value = (answer.1.status, t.put h answer.2) := by
  refine onName_of_live live name fun name => ?_
  simp only [Engine.perform]
  cases (g.set name value).1 <;> rfl

theorem remove_of_live (live : t.resolve? h = some g) (name : NameArgument) :
    let answer := g.perform (name.operation .remove)
    t.remove h name = (answer.1.status, t.put h answer.2) := by
  refine onName_of_live live name fun name => ?_
  simp only [Engine.perform]
  cases (g.remove name).1 <;> rfl

/-- The name of a reading is decoded first, and only then the place for the value is looked at. -/
theorem get_of_live (live : t.resolve? h = some g) (name : NameArgument) (hasOut : Bool) :
    let answer := g.perform
      (name.operation fun name => if hasOut then .get name else .report missingOut)
    t.get h name hasOut = ((answer.1.status, answer.1.value?), t.put h answer.2) := by
  intro answer
  unfold HandleTable.get
  rw [onEngine_of_live live]
  simp only [answer, NameArgument.operation_eq]
  cases name.decode with
  | error e => rfl
  | ok name =>
    cases hasOut with
    | false => rfl
    | true =>
      simp only [if_true, Engine.perform]
      rcases g.get name with ⟨_ | _, _⟩ <;> rfl

theorem has_of_live (live : t.resolve? h = some g) (name : NameArgument) :
    t.has h name = name.text?.any g.contains := by
  unfold has
  rw [live, NameArgument.text?_eq]
  cases name.decode <;> rfl

/-- **A call on a live handle is the request carried out on the engine of the handle.** -/
theorem perform_of_live {call : Call} {request : Request}
    (asked : call.addressed? = some (h, request)) (live : t.resolve? h = some g) :
    t.perform call = ((g.serve request).1, t.put h (g.serve request).2) := by
  cases call with
  | create k name value =>
    obtain ⟨rfl, rfl⟩ := Prod.mk.inj (Option.some.inj asked)
    simp only [perform, create_of_live live]
    rfl
  | set k name value =>
    obtain ⟨rfl, rfl⟩ := Prod.mk.inj (Option.some.inj asked)
    simp only [perform, set_of_live live]
    rfl
  | get k name hasOut =>
    obtain ⟨rfl, rfl⟩ := Prod.mk.inj (Option.some.inj asked)
    simp only [perform, get_of_live live]
    rfl
  | remove k name =>
    obtain ⟨rfl, rfl⟩ := Prod.mk.inj (Option.some.inj asked)
    simp only [perform, remove_of_live live]
    rfl
  | reset k =>
    obtain ⟨rfl, rfl⟩ := Prod.mk.inj (Option.some.inj asked)
    simp only [perform, reset, onEngine_of_live live]
    rfl
  | has k name =>
    -- the questions leave the engine, and so the table, as it is
    obtain ⟨rfl, rfl⟩ := Prod.mk.inj (Option.some.inj asked)
    simp only [perform, has_of_live live, Engine.serve, put_eq_self live]
  | count k =>
    obtain ⟨rfl, rfl⟩ := Prod.mk.inj (Option.some.inj asked)
    simp only [perform, count, live, Engine.serve, put_eq_self live]
  | lastError k =>
    obtain ⟨rfl, rfl⟩ := Prod.mk.inj (Option.some.inj asked)
    simp only [perform, lastError, live, Engine.serve, put_eq_self live]
  | lastErrorCode k =>
    obtain ⟨rfl, rfl⟩ := Prod.mk.inj (Option.some.inj asked)
    simp only [perform, lastErrorCode, live, Engine.serve, put_eq_self live]
  | createEngine | createEngineWithOptions | destroy | describe | initLogging =>
    -- these are no calls on a handle
    exact absurd asked (by simp [Call.addressed?])

/-- A call on a handle that is not live is refused and changes nothing. -/
theorem perform_of_dead {call : Call} {request : Request}
    (asked : call.addressed? = some (h, request)) (dead : t.resolve? h = none) :
    t.perform call = (request.refusal, t) := by
  cases call with
  | createEngine | createEngineWithOptions | destroy | describe | initLogging =>
    exact absurd asked (by simp [Call.addressed?])
  | _ =>
    obtain ⟨rfl, rfl⟩ := Prod.mk.inj (Option.some.inj asked)
    simp only [perform, create, set, get, remove, reset, has, count, lastError, lastErrorCode,
      onName, onEngine_of_dead dead, dead]
    rfl

/-! ### Creations -/

/-- A creation whose numbers denote a policy makes an engine with it. -/
theorem perform_of_creation {call : Call} {config : EngineConfig}
    (denotes : call.creation? = some (some config)) :
    t.perform call = (.handle t.next, (t.register (Engine.new config)).2) := by
  cases call with
  | createEngine =>
    obtain rfl := Option.some.inj (Option.some.inj denotes)
    rfl
  | createEngineWithOptions options =>
    cases options with
    | none =>
      obtain rfl := Option.some.inj (Option.some.inj denotes)
      rfl
    | some options =>
      have policy : options.config? = some config := Option.some.inj denotes
      have made : Engine.make config = .ok (Engine.new config) := by
        unfold Engine.make
        rw [(EngineOptions.config?_eq_some_iff.mp policy).2.2.2]
      simp only [perform, createEngine, Option.getD_some, policy, Option.map_some, made]
      rfl
  | _ => exact absurd denotes (by simp [Call.creation?])

/-- A creation whose numbers denote no policy makes no engine. -/
theorem perform_of_refused_creation {call : Call} (denotes : call.creation? = some none) :
    t.perform call = (.handle Handle.null, t) := by
  cases call with
  | createEngineWithOptions options =>
    cases options with
    | none => exact absurd denotes (by simp [Call.creation?])
    | some options =>
      have policy : options.config? = none := Option.some.inj denotes
      simp only [perform, createEngine, Option.getD_some, policy, Option.map_none]
  | _ => exact absurd denotes (by simp [Call.creation?])

end HandleTable

/-! ### Outcomes -/

/-- What a call can come to. -/
inductive CallOutcome (t : HandleTable) (call : Call) : CallReply × HandleTable → Prop
  /-- An engine carried out a request. -/
  | served {h : Handle} {request : Request} {g : Engine}
    (asked : call.addressed? = some (h, request)) (live : t.resolve? h = some g) :
    CallOutcome t call ((g.serve request).1, t.put h (g.serve request).2)
  /-- There was no engine to carry out a request. -/
  | refused {h : Handle} {request : Request}
    (asked : call.addressed? = some (h, request)) (dead : t.resolve? h = none) :
    CallOutcome t call (request.refusal, t)
  /-- There is a new engine. -/
  | created {config : EngineConfig} (denotes : call.creation? = some (some config)) :
    CallOutcome t call (.handle t.next, (t.register (Engine.new config)).2)
  /-- There is no new engine. -/
  | notCreated (denotes : call.creation? = some none) :
    CallOutcome t call (.handle Handle.null, t)
  /-- A handle is dead now. -/
  | destroyed (h : Handle) (which : call = .destroy h) :
    CallOutcome t call (.nothing, t.release h)
  /-- The call has nothing to do with engines. -/
  | aside (reply : CallReply) (noRequest : call.addressed? = none)
    (noCreation : call.creation? = none) : CallOutcome t call (reply, t)

/-- **Every call comes to one of its outcomes.** -/
theorem HandleTable.perform_outcome (t : HandleTable) (call : Call) :
    CallOutcome t call (t.perform call) := by
  rcases asked : call.addressed? with _ | ⟨h, request⟩
  · rcases denotes : call.creation? with _ | _ | config
    · cases call with
      | destroy h => exact .destroyed h rfl
      | describe code => exact .aside _ rfl rfl
      | initLogging installed => exact .aside _ rfl rfl
      | createEngine => exact absurd denotes (by simp [Call.creation?])
      | createEngineWithOptions options =>
        cases options <;> exact absurd denotes (by simp [Call.creation?])
      | _ => exact absurd asked (by simp [Call.addressed?])
    · rw [perform_of_refused_creation denotes]
      exact .notCreated denotes
    · rw [perform_of_creation denotes]
      exact .created denotes
  · rcases live : t.resolve? h with _ | g
    · rw [perform_of_dead asked live]
      exact .refused asked live
    · rw [perform_of_live asked live]
      exact .served asked live

end NamedCells
