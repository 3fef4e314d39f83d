import NamedCells.Proofs.EngineOutcomes
import NamedCells.Proofs.History
import NamedCells.Proofs.Messages
import NamedCells.Proofs.Utf8Reading

/-!
# The channel describes the latest operation

Whatever an engine was asked to do before, its channel says how the latest operation ended and
nothing older.  Questions do not count: they leave the channel as they find it.

Each event has a remark, which is what it leaves in the channel.  An operation replaces the channel
by its remark, so after a run the remark of the latest operation is left.  Whatever is left holds no
NUL, and is empty only after a success without more to say.

## Main definitions

* `Event.error?` — the error that an event left in the channel.
* `Event.remark` — what an event leaves in the channel.
* `Channel.Consistent` — what holds of a channel however it came about.
* `Engine.latest?` — the latest event of a history that is no question.

## Main results

* `Engine.channel_perform` — an operation leaves its remark.
* `Engine.channel_run` — a run leaves the remark of its latest operation.
* `Engine.consistent_run` — in every run the channel stays consistent.
* `channel_describes_latest` — **the channel describes the latest operation.**
-/

namespace NamedCells

/-- The notice of a redefinition is written with printed characters only. -/
theorem plain_redefinitionNotice (name : String) (previous value : Binary64) :
    Text.Plain (redefinitionNotice name previous value).toList := by
  have duplicate : Text.Plain (EngineError.duplicateCellName name).message.toList :=
    (EngineError.duplicateCellName name).plain_words
  have opening : Text.Plain "; value redefined from ".toList := by decide
  have between : Text.Plain " to ".toList := by decide
  simp only [redefinitionNotice, String.toList_append, Text.plain_append]
  exact ⟨⟨⟨⟨duplicate, opening⟩, previous.plain_text⟩, between⟩, value.plain_text⟩

namespace Event

/-- The error that an event left in the channel: the one that was answered, or reported. -/
def error? : Event → Option EngineError
  | ⟨.report e, _⟩ => some e
  | ⟨_, .error e⟩ => some e
  | _ => none

/-- What an event leaves in the channel if it is no question. -/
def remark (e : Event) : Channel :=
  match e.error? with
  | some error => ⟨error.status, Text.withoutNul error.message⟩
  | none =>
    match e with
    | ⟨.create name value, .ok (.write (.redefined previous))⟩ =>
      ⟨.duplicateCellName, "cell " ++ Text.quote name ++ " already exists; value redefined from " ++
        previous.text ++ " to " ++ value.text⟩
    | _ => ⟨.ok, ""⟩

theorem remark_of_error {e : Event} {error : EngineError} (h : e.error? = some error) :
    e.remark = ⟨error.status, Text.withoutNul error.message⟩ := by
  unfold remark
  rw [h]

/-- The remark of a redefinition is the notice of the engine, in which no NUL stands. -/
theorem remark_redefined (name : String) (previous value : Binary64) :
    remark ⟨.create name value, .ok (.write (.redefined previous))⟩ =
      .ofMessage .duplicateCellName (redefinitionNotice name previous value) := by
  have words : redefinitionNotice name previous value =
      "cell " ++ Text.quote name ++ " already exists; value redefined from " ++ previous.text ++
        " to " ++ value.text := by
    have joined : " already exists" ++ "; value redefined from " =
        " already exists; value redefined from " := by decide
    change "cell " ++ Text.quote name ++ " already exists" ++ "; value redefined from " ++
      previous.text ++ " to " ++ value.text = _
    rw [← joined]
    simp only [String.append_assoc]
  have plain := plain_redefinitionNotice name previous value
  have kept := Text.withoutNul_eq_self (plain.notMem (c := '\x00') (by decide))
  change (⟨.duplicateCellName, _⟩ : Channel) =
    ⟨.duplicateCellName, Text.withoutNul (redefinitionNotice name previous value)⟩
  rw [kept, words]

end Event

/-! ### Channels -/

/-- What holds of a channel however it came about: the status is that of a success iff there is
nothing to read, and what is to be read has no NUL. -/
structure Channel.Consistent (c : Channel) : Prop where
  ok_iff : c.status = .ok ↔ c.message = ""
  noNul : '\x00' ∉ c.message.toList

namespace Channel

theorem consistent_clear : clear.Consistent where
  ok_iff := iff_of_true rfl rfl
  noNul := by decide

theorem consistent_ofError (e : EngineError) : (ofError e).Consistent where
  ok_iff := iff_of_false e.status_ne_ok e.withoutNul_message_ne_empty
  noNul := Text.nul_notMem_withoutNul e.message

theorem consistent_redefinition (name : String) (previous value : Binary64) :
    (ofMessage .duplicateCellName (redefinitionNotice name previous value)).Consistent where
  ok_iff := by
    have duplicate : Status.duplicateCellName ≠ .ok := by decide
    refine iff_of_false duplicate ?_
    have first : 'c' ∈ (redefinitionNotice name previous value).toList := by
      change 'c' ∈ ("cell " ++ Text.quote name ++ " already exists" ++
        "; value redefined from " ++ previous.text ++ " to " ++ value.text).toList
      simp only [String.toList_append, List.mem_append]
      exact .inl (.inl (.inl (.inl (.inl (.inl (by decide))))))
    exact Text.withoutNul_ne_empty first (by decide)
  noNul := Text.nul_notMem_withoutNul _

end Channel

/-! ### Operations -/

namespace Engine

theorem channel_perform_of_isQuestion (g : Engine) {op : Operation}
    (question : op.isQuestion = true) : (g.perform op).2.channel = g.channel := by
  cases op with
  | contains | size | isEmpty | names => rfl
  | _ => cases question

/-- **An operation leaves its remark.** -/
theorem channel_perform (g : Engine) {op : Operation} (acts : op.isQuestion = false) :
    (g.perform op).2.channel = Event.remark ⟨op, (g.perform op).1⟩ := by
  have outcome := g.perform_outcome op
  generalize g.perform op = after at outcome ⊢
  cases outcome with
  | refused op e canFail =>
    have error : Event.error? ⟨op, .error e⟩ = some e := by
      cases op with
      | report => cases canFail
      | _ => rfl
    rw [Event.remark_of_error error]
    rfl
  | reported e =>
    have error : Event.error? ⟨.report e, .ok (.status e.status)⟩ = some e := rfl
    rw [Event.remark_of_error error]
    rfl
  | redefined name value cell => exact (Event.remark_redefined name cell.value value).symm
  | asked op reply question =>
    rw [acts] at question
    cases question
  | _ => rfl

theorem consistent_perform (g : Engine) {op : Operation} (acts : op.isQuestion = false) :
    (g.perform op).2.channel.Consistent := by
  have outcome := g.perform_outcome op
  generalize g.perform op = after at outcome ⊢
  cases outcome with
  | refused op e => exact Channel.consistent_ofError e
  | reported e => exact Channel.consistent_ofError e
  | redefined name value cell => exact Channel.consistent_redefinition name cell.value value
  | asked op reply question =>
    rw [acts] at question
    cases question
  | _ => exact Channel.consistent_clear

/-! ### Runs -/

/-- The latest event of a history that is no question. -/
def latest? (history : List Event) : Option Event :=
  (history.filter fun e => !e.operation.isQuestion).getLast?

/-- **A run leaves the remark of its latest operation**, or the channel as it was if there were
questions only. -/
theorem channel_run (g : Engine) (ops : List Operation) :
    (g.run ops).2.channel = ((latest? (g.history ops)).map Event.remark).getD g.channel := by
  induction ops generalizing g with
  | nil => rfl
  | cons op ops ih =>
    rw [run_cons, history_cons, ih]
    cases question : op.isQuestion with
    | true =>
      have skipped : latest? (⟨op, (g.perform op).1⟩ :: (g.perform op).2.history ops) =
          latest? ((g.perform op).2.history ops) := by
        simp [latest?, question]
      rw [skipped, g.channel_perform_of_isQuestion question]
    | false =>
      -- the remark of this operation is left unless there is a later one
      rw [g.channel_perform question]
      simp only [latest?, question, List.filter_cons_of_pos, Bool.not_false, List.getLast?_cons]
      generalize List.getLast? _ = later
      cases later <;> rfl

/-- In every run the channel stays consistent. -/
theorem consistent_run {g : Engine} (h : g.channel.Consistent) (ops : List Operation) :
    (g.run ops).2.channel.Consistent := by
  induction ops generalizing g with
  | nil => exact h
  | cons op ops ih =>
    rw [run_cons]
    refine ih ?_
    cases question : op.isQuestion with
    | true =>
      rw [g.channel_perform_of_isQuestion question]
      exact h
    | false => exact g.consistent_perform question

end Engine

/-! ### Bytes -/

/-- Leaving out the zero bytes of a text leaves out its NULs, so what is left is a text. -/
theorem Utf8.encode_filter (cs : List Char) :
    (encode cs).filter (· ≠ 0) = encode (cs.filter (· ≠ '\x00')) := by
  induction cs with
  | nil => rfl
  | cons c cs ih =>
    rw [encode_cons, List.filter_append, ih]
    by_cases nul : c = '\x00'
    · subst nul
      rfl
    · have kept : (String.utf8EncodeChar c).filter (· ≠ 0) = String.utf8EncodeChar c := by
        rw [List.filter_eq_self]
        intro b mem
        rw [decide_eq_true_eq]
        rintro rfl
        exact nul (eq_of_mem_encodeChar (d := '\x00') (by decide) mem)
      have stays : (c :: cs).filter (· ≠ '\x00') = c :: cs.filter (· ≠ '\x00') :=
        List.filter_cons_of_pos (decide_eq_true nul)
      rw [kept, stays, encode_cons]

theorem Text.fromUTF8?_filter (s : String) :
    String.fromUTF8? (s.toUTF8.data.toList.filter (· ≠ 0)).toByteArray =
      some (Text.withoutNul s) := by
  rw [Utf8.encode_eq_toUTF8, Utf8.encode_filter, Utf8.fromUTF8?_toByteArray, Utf8.decode?_encode]
  rfl

/-- **The channel describes the latest operation.**  After any run of a new engine, whatever its
policy, the status and the text follow from the latest event that is no question.

* They are the remark of this event, and those of a success if there is none.
* The text of an error is its message as it stands, unless a free text of the error holds a NUL.
* The status is that of a success iff the text is empty.
* There is no NUL in the text, and to leave out the zero bytes of a message is to leave out its
  NULs: what is left is always read back as a text. -/
theorem channel_describes_latest (config : EngineConfig) (ops : List Operation) :
    let latest := Engine.latest? ((Engine.new config).history ops)
    let g := ((Engine.new config).run ops).2
    ⟨g.lastStatus, g.lastError⟩ = (latest.map Event.remark).getD ⟨.ok, ""⟩ ∧
    (∀ e error, latest = some e → e.error? = some error → '\x00' ∉ error.freeText.toList →
      g.lastError = error.message) ∧
    (g.lastStatus = .ok ↔ g.lastError = "") ∧
    '\x00' ∉ g.lastError.toList ∧
    ∀ s : String, String.fromUTF8? (s.toUTF8.data.toList.filter (· ≠ 0)).toByteArray =
      some (Text.withoutNul s) := by
  intro latest g
  have left : g.channel = (latest.map Event.remark).getD ⟨.ok, ""⟩ :=
    (Engine.new config).channel_run ops
  have consistent : g.channel.Consistent := Engine.consistent_run Channel.consistent_clear ops
  refine ⟨left, ?_, consistent.ok_iff, consistent.noNul, Text.fromUTF8?_filter⟩
  intro e error last failed noNul
  rw [last, Option.map_some, Option.getD_some, Event.remark_of_error failed] at left
  rw [← error.withoutNul_message noNul]
  exact congrArg Channel.message left

/-- A cell is created twice, and then one is asked for under a name that holds a NUL.  Questions
later the channel still has the whole message of the refusal, for in it the NUL is quoted. -/
theorem channel_describes_latest_quoted :
    let ops : List Operation :=
      [.create "a" ⟨1⟩, .create "a" ⟨2⟩, .get "b\x00", .size, .contains "a"]
    let g := ((Engine.new {}).run ops).2
    g.lastStatus = .invalidName ∧
      g.lastError = (EngineError.invalidName "b\x00" (.control '\x00')).message := by
  intro ops g
  let refusal : EngineError := .invalidName "b\x00" (.control '\x00')
  let refused : Event := ⟨.get "b\x00", .error refusal⟩
  have last : Engine.latest? ((Engine.new {}).history ops) = some refused := rfl
  have noNul : '\x00' ∉ refusal.freeText.toList := by decide
  obtain ⟨left, message, -, -, -⟩ := channel_describes_latest {} ops
  refine ⟨?_, message refused refusal last rfl noNul⟩
  rw [last] at left
  exact congrArg Channel.status left

end NamedCells
