import NamedCells.Proofs.Isolation
import NamedCells.Proofs.LatestOperation

/-!
# What a call returns and what is asked afterwards

A caller learns twice how a call ended: by the status that the call returns, and by asking for the
latest status and message of the handle.  Here both say the same, whatever the handle and the
arguments were, and for as long as only questions are asked.

On a live handle a call is one operation of the engine, whose answer has the status that is also in
the channel.  On any other handle both ways give the status that is kept for this.

## Main definitions

* `Request.isOperation`, `Call.isQuestion` — the requests that return a status, and the calls that
  only ask.
* `CallReply.status?`, `CallReply.out?` — the status that a call returned, and the value that it
  wrote to the caller's place.
* `Request.Means` — the operations on an engine that a request can come to.
* `HandleTable.stored?` — the value that is stored under a name that a caller passed.

## Main results

* `Engine.lastStatus_perform` — an operation is answered with the status that it leaves.
* `Engine.serve_means` — a request that returns a status is an operation that it can come to.
* `Engine.serve_get` — what is read is what is stored.
* `HandleTable.run_of_questions` — questions leave the table as it is.
* `HandleTable.returned_status_is_last` — **what is returned and what is asked afterwards agree.**
-/

namespace NamedCells

/-- The requests that are answered with a status.  The others are questions. -/
def Request.isOperation : Request → Bool
  | .create .. | .set .. | .get .. | .remove _ | .reset => true
  | .has _ | .count | .lastError | .lastErrorCode => false

/-- The calls that only ask something of an engine. -/
def Call.isQuestion : Call → Bool
  | .has .. | .count _ | .lastError _ | .lastErrorCode _ => true
  | _ => false

namespace CallReply

/-- The status that was returned, if one was. -/
def status? : CallReply → Option Status
  | .code status => some status
  | .codeAndOut status _ => some status
  | _ => none

/-- The value that was written to the caller's place for it, if one was. -/
def out? : CallReply → Option Binary64
  | .codeAndOut _ out => out
  | _ => none

end CallReply

/-- The value stored in the engine of a handle under the name that a caller passed. -/
def HandleTable.stored? (t : HandleTable) (h : Handle) (name : NameArgument) : Option Binary64 := do
  let g ← t.resolve? h
  let text ← name.text?
  let cell ← g.registry.get? text
  return cell.value

theorem Status.code_eq_zero_iff {s : Status} : s.code = 0 ↔ s = .ok := by
  cases s <;> simp [code]

/-! ### Operations of an engine -/

/-- The operations on an engine that a request can come to.  A name that cannot be passed on is
reported, and so is a reading without a place for the value. -/
inductive Request.Means : Request → Operation → Prop
  /-- The creation of a cell under the text that was passed. -/
  | create {name : NameArgument} {text : String} (named : name.text? = some text)
    (value : Binary64) : Means (.create name value) (.create text value)
  /-- An assignment to the cell with this name. -/
  | set {name : NameArgument} {text : String} (named : name.text? = some text)
    (value : Binary64) : Means (.set name value) (.set text value)
  /-- A reading of the cell, if there is a place for the value. -/
  | get {name : NameArgument} {text : String} (named : name.text? = some text) :
    Means (.get name true) (.get text)
  /-- A removal of the cell. -/
  | remove {name : NameArgument} {text : String} (named : name.text? = some text) :
    Means (.remove name) (.remove text)
  /-- A removal of all cells. -/
  | reset : Means .reset .reset
  /-- The report that no name was passed. -/
  | badName (request : Request) (e : EngineError) (status : e.status = .invalidName) :
    Means request (.report e)
  /-- The report that there is no place for the value. -/
  | noPlace (name : NameArgument) : Means (.get name false) (.report HandleTable.missingOut)

/-- What is done with a name that a caller passed is something that the request can come to, if it
is for every text. -/
theorem Request.means_operation {request : Request} {name : NameArgument}
    {act : String → Operation}
    (means : ∀ text, name.text? = some text → request.Means (act text)) :
    request.Means (name.operation act) := by
  cases name with
  | none => exact .badName request _ rfl
  | some bytes =>
    unfold NameArgument.operation
    dsimp only
    cases decoded : String.fromUTF8? (bytes.takeWhile (· ≠ 0)).toByteArray with
    | none => exact .badName request _ rfl
    | some text => exact means text decoded

/-- What a request can come to is no question. -/
theorem Request.Means.isQuestion_eq_false {request : Request} {op : Operation}
    (means : request.Means op) : op.isQuestion = false := by
  cases means <;> rfl

namespace Engine

/-- An operation is answered with the status that it leaves in the channel. -/
theorem lastStatus_perform (g : Engine) {op : Operation} (acts : op.isQuestion = false) :
    (g.perform op).2.lastStatus = (g.perform op).1.status := by
  have outcome := g.perform_outcome op
  generalize g.perform op = after at outcome ⊢
  cases outcome with
  | asked op reply question =>
    rw [acts] at question
    cases question
  | _ => rfl

/-- **A request that returns a status is an operation that it can come to**, and returns the status
of its answer. -/
theorem serve_means (g : Engine) {request : Request} (operation : request.isOperation = true) :
    ∃ op, request.Means op ∧ (g.serve request).2 = (g.perform op).2 ∧
      (g.serve request).1.status? = some (g.perform op).1.status := by
  cases request with
  | create name value =>
    exact ⟨name.operation fun text => .create text value,
      Request.means_operation fun _ named => .create named value, rfl, rfl⟩
  | set name value =>
    exact ⟨name.operation fun text => .set text value,
      Request.means_operation fun _ named => .set named value, rfl, rfl⟩
  | get name hasOut =>
    refine ⟨name.operation fun text => if hasOut then .get text else .report HandleTable.missingOut,
      Request.means_operation fun _ named => ?_, rfl, rfl⟩
    cases hasOut with
    | true => exact .get named
    | false => exact .noPlace name
  | remove name =>
    exact ⟨name.operation .remove, Request.means_operation fun _ named => .remove named, rfl, rfl⟩
  | reset => exact ⟨.reset, .reset, rfl, rfl⟩
  | has | count | lastError | lastErrorCode => cases operation

/-- A value is read from the cell with the name, or there is a refusal. -/
theorem answer_get (g : Engine) (text : String) :
    (∃ cell, g.registry.get? text = some cell ∧
        (g.perform (.get text)).1 = .ok (.value cell.value)) ∨
      ∃ e, (g.perform (.get text)).1 = .error e := by
  have outcome := g.perform_outcome (.get text)
  generalize g.perform (.get text) = after at outcome ⊢
  cases outcome with
  | refused _ e => exact .inr ⟨e, rfl⟩
  | read _ cell good taken => exact .inl ⟨cell, taken, rfl⟩
  | asked _ reply question => cases question

/-- **What is read is what is stored.**  A reading either succeeds, and then there is a place for
the value and the value stored under the name is written to it, or it fails and writes nothing. -/
theorem serve_get (g : Engine) (name : NameArgument) (hasOut : Bool) :
    (∃ text cell, hasOut = true ∧ name.text? = some text ∧ g.registry.get? text = some cell ∧
        (g.serve (.get name hasOut)).1 = .codeAndOut .ok (some cell.value)) ∨
      ∃ status : Status, status ≠ .ok ∧
        (g.serve (.get name hasOut)).1 = .codeAndOut status none := by
  let act (text : String) : Operation :=
    if hasOut then .get text else .report HandleTable.missingOut
  have served : (g.serve (.get name hasOut)).1 =
      .codeAndOut (g.perform (name.operation act)).1.status
        (g.perform (name.operation act)).1.value? := rfl
  rw [served, NameArgument.operation_eq, NameArgument.text?_eq]
  cases name.decode with
  | error e => exact .inr ⟨e.status, e.status_ne_ok, rfl⟩
  | ok text =>
    have chosen : act text = if hasOut then .get text else .report HandleTable.missingOut := rfl
    dsimp only
    rw [chosen]
    cases hasOut with
    | false => exact .inr ⟨_, HandleTable.missingOut.status_ne_ok, rfl⟩
    | true =>
      rw [if_pos rfl]
      rcases g.answer_get text with ⟨cell, taken, answer⟩ | ⟨e, answer⟩
      · rw [answer]
        exact .inl ⟨text, cell, rfl, rfl, taken, rfl⟩
      · rw [answer]
        exact .inr ⟨e.status, e.status_ne_ok, rfl⟩

end Engine

/-! ### Calls -/

namespace HandleTable

/-- A question leaves the table as it is. -/
theorem perform_of_isQuestion (t : HandleTable) {call : Call} (question : call.isQuestion = true) :
    (t.perform call).2 = t := by
  cases call with
  | has | count | lastError | lastErrorCode => rfl
  | _ => cases question

theorem run_of_questions (t : HandleTable) {calls : List Call}
    (questions : ∀ call ∈ calls, call.isQuestion = true) : (t.run calls).2 = t := by
  induction calls with
  | nil => rfl
  | cons call calls ih =>
    have first : call.isQuestion = true := questions call List.mem_cons_self
    have rest : ∀ other ∈ calls, other.isQuestion = true := by
      intro other mem
      exact questions other (List.mem_cons_of_mem call mem)
    rw [run_cons, t.perform_of_isQuestion first]
    exact ih rest

/-- Without an engine a request that returns a status returns the one for this, and writes
nothing. -/
theorem refusal_of_isOperation {request : Request} (operation : request.isOperation = true) :
    request.refusal.status? = some .invalidEngineHandle ∧ request.refusal.out? = none := by
  cases request with
  | has | count | lastError | lastErrorCode => cases operation
  | _ => exact ⟨rfl, rfl⟩

/-- What is returned is what is found as the latest status, and the latest message says whether it
is that of a success. -/
theorem status?_perform (t : HandleTable) {h : Handle} {call : Call} {request : Request}
    (asked : call.addressed? = some (h, request)) (operation : request.isOperation = true) :
    (t.perform call).1.status? = some ((t.perform call).2.lastErrorCode h) ∧
      ((t.perform call).2.lastErrorCode h = .ok ↔ (t.perform call).2.lastError h = "") := by
  rcases live : t.resolve? h with _ | g
  · -- no engine, before and after the call
    rw [perform_of_dead asked live]
    simp only [lastErrorCode, lastError, live]
    have described : Status.invalidEngineHandle.description ≠ "" := by decide
    exact ⟨(refusal_of_isOperation operation).1, iff_of_false (by decide) described⟩
  · obtain ⟨op, means, after, returned⟩ := g.serve_means operation
    have acts := means.isQuestion_eq_false
    have live' : (t.put h (g.serve request).2).resolve? h = some (g.perform op).2 := by
      rw [resolve?_put, if_pos rfl, after]
    rw [perform_of_live asked live]
    simp only [lastErrorCode, lastError, live']
    refine ⟨?_, (g.consistent_perform acts).ok_iff⟩
    rw [returned, g.lastStatus_perform acts]

/-- A reading of the value stored under a name either returns the status of success, and then the
value is written to the caller's place, or returns another, and then nothing is written. -/
theorem out?_perform_get (t : HandleTable) {h : Handle} {call : Call} {name : NameArgument}
    {hasOut : Bool} (asked : call.addressed? = some (h, .get name hasOut)) :
    ((t.perform call).1.status? = some .ok ∧ hasOut = true ∧
        ∃ value, t.stored? h name = some value ∧ (t.perform call).1.out? = some value) ∨
      ((t.perform call).1.status? ≠ some .ok ∧ (t.perform call).1.out? = none) := by
  rcases live : t.resolve? h with _ | g
  · rw [perform_of_dead asked live]
    exact .inr ⟨by simp [Request.refusal, CallReply.status?], rfl⟩
  · rw [perform_of_live asked live]
    rcases g.serve_get name hasOut with ⟨text, cell, place, named, taken, reply⟩ |
      ⟨status, failed, reply⟩
    · have stored : t.stored? h name = some cell.value := by
        simp [stored?, live, named, taken]
      rw [reply]
      exact .inl ⟨rfl, place, cell.value, stored, rfl⟩
    · rw [reply]
      exact .inr ⟨by simpa [CallReply.status?] using failed, rfl⟩

/-- **What a call returns and what is asked afterwards agree.**  This holds of every table,
reachable or not, of every handle, live or not, and of all arguments.

* The call returns a status.  After it, and after any number of questions, this is the latest status
  of the handle, and the latest message is always the same.
* The message is empty iff the code of the status is zero.
* A reading whose status has the code zero found a place for the value and wrote the stored value to
  it, bit for bit; every other reading wrote nothing. -/
theorem returned_status_is_last (t : HandleTable) {h : Handle} {call : Call} {request : Request}
    (asked : call.addressed? = some (h, request)) (operation : request.isOperation = true) :
    ∃ status message,
      (t.perform call).1.status? = some status ∧
      (message = "" ↔ status.code = 0) ∧
      (∀ questions : List Call, (∀ q ∈ questions, q.isQuestion = true) →
        let later := ((t.perform call).2.run questions).2
        (later.perform (.lastErrorCode h)).1 = .code status ∧
          (later.perform (.lastError h)).1 = .text message) ∧
      ∀ name hasOut, request = .get name hasOut →
        (status.code = 0 → hasOut = true ∧
          ∃ value, t.stored? h name = some value ∧ (t.perform call).1.out? = some value) ∧
        (status.code ≠ 0 → (t.perform call).1.out? = none) := by
  obtain ⟨returned, ok_iff⟩ := t.status?_perform asked operation
  refine ⟨_, (t.perform call).2.lastError h, returned, ?_, ?_, ?_⟩
  · rw [Status.code_eq_zero_iff]
    exact ok_iff.symm
  · intro questions asks
    rw [run_of_questions _ asks]
    exact ⟨rfl, rfl⟩
  · rintro name hasOut rfl
    simp only [ne_eq, Status.code_eq_zero_iff]
    rcases t.out?_perform_get asked with ⟨ok, place, written⟩ | ⟨failed, nothing⟩
    · rw [returned, Option.some.injEq] at ok
      exact ⟨fun _ => ⟨place, written⟩, fun other => absurd ok other⟩
    · rw [returned] at failed
      exact ⟨fun ok => absurd (congrArg some ok) failed, fun _ => nothing⟩

/-- A cell is redefined, which leaves a notice, and then read under bytes that go on after a NUL.
The reading returns success and the new value, and so say the questions asked later. -/
theorem returned_status_is_last_redefined :
    let t := (empty.run [.createEngine, .create 1 (some [97]) ⟨1⟩, .create 1 (some [97]) ⟨2⟩]).2
    let call : Call := .get 1 (some [97, 0, 98]) true
    let later := ((t.perform call).2.run [.has 1 none, .count 5, .lastError 1]).2
    t.lastErrorCode 1 = .duplicateCellName ∧ (later.perform (.lastErrorCode 1)).1 = .code .ok ∧
      (later.perform (.lastError 1)).1 = .text "" ∧ (t.perform call).1.out? = some ⟨2⟩ := by
  intro t call later
  have asked : call.addressed? = some (1, .get (some [97, 0, 98]) true) := rfl
  have asks : ∀ q ∈ [Call.has 1 none, .count 5, .lastError 1], q.isQuestion = true := by decide
  obtain ⟨status, message, returned, empty_iff, same, read⟩ := returned_status_is_last t asked rfl
  have succeeded : (t.perform call).1.status? = some .ok := by decide +kernel
  have stored : t.stored? 1 (some [97, 0, 98]) = some ⟨2⟩ := by decide +kernel
  obtain rfl : status = .ok := Option.some.inj (returned.symm.trans succeeded)
  obtain rfl : message = "" := empty_iff.mpr rfl
  obtain ⟨code, text⟩ := same _ asks
  obtain ⟨-, value, found, written⟩ := (read _ _ rfl).1 rfl
  obtain rfl : value = ⟨2⟩ := Option.some.inj (found.symm.trans stored)
  exact ⟨by decide +kernel, code, text, written⟩

end HandleTable

end NamedCells
