import NamedCells.Proofs.Batch
import NamedCells.Proofs.NameGrammar
import NamedCells.Proofs.Presence
import NamedCells.Proofs.Printed
import NamedCells.Proofs.SegmentErrors
import NamedCells.Proofs.ShownNumbers

/-!
# What is printed, line by line

A reader of the output takes it line by line, so no text that is echoed may bring a line end along.
What is said about a misread segment has none, because the segment has none.  The messages of the
engine quote every name.  The names that are shown as they are, in the list and in the record of a
cell, are those of cells that are stored, and such names hold no control character.  And what the
channel says comes from a message.

## Main definitions

* `Session.Prints` — what a command prints when it succeeds.
* `Engine.Presentable` — an engine with nothing but printed characters to show.
* `Outcome.OneLine`, `IsLine` — a text without a line end, and a line with its end.
* `Outcome.written` — what an outcome writes to the two streams.

## Main results

* `Session.prints_of_execute` — a command prints one of a few things.
* `Session.plain_channel_afterAll` — no control character comes into the channel of a session.
* `Session.oneLine_runSegment` — a text that a segment gives has no line end.
* `Session.failed_of_refusal` — only what fails looks like a refusal.
* `CommandLine.written_emissions` — a run writes what its outcomes write.
* `CommandLine.splitOn_writeLines` — lines are read back by cutting at line ends.
* `output_line_by_line` — **what is printed, line by line.**
-/

namespace NamedCells

/-! ### What a command prints -/

/-- A name that is well formed holds no control character. -/
theorem Name.plain_of_good {s : String} (good : fault? s = none) : Text.Plain s.toList := by
  intro c mem
  have allowed := (fault?_eq_none_iff.mp good).allowed c mem
  rw [← Bool.not_eq_true, isControl_iff]
  exact allowed.2.2

namespace Session

/-- What a command prints when it succeeds and prints something. -/
inductive Prints (g : Engine) : Command → String → Prop
  | value {name : String} {cell : Cell} (held : g.registry.get? name = some cell) :
    Prints g (.get name) cell.value.shown
  | record {name : String} {cell : Cell} (held : g.registry.get? name = some cell) :
    Prints g (.inspect name) cell.summary
  | presence (name : String) : Prints g (.has name) (if g.contains name then "true" else "false")
  | size : Prints g .count (toString g.size)
  | names (some : g.names ≠ []) : Prints g .list ("\n".intercalate g.names)
  | remark : Prints g .error g.channel.summary

variable {config : EngineConfig} {g after : Engine} {c : Command} {text : String}

/-- **A command prints one of a few things.** -/
theorem prints_of_execute (done : execute g c = (.output text, after)) : Prints g c text := by
  cases c with
  | create name value =>
    simp only [execute] at done
    split at done <;> cases done
  | set name value =>
    simp only [execute] at done
    cases answer : (g.set name value).1 <;> rw [answer] at done <;> cases done
  | remove name =>
    simp only [execute] at done
    cases answer : (g.remove name).1 <;> rw [answer] at done <;> cases done
  | get name =>
    have outcome := g.registry.lookup_outcome name
    simp only [execute, Engine.get] at done
    generalize g.registry.lookup name = result at outcome done
    cases outcome with
    | found good cell held =>
      cases done
      exact .value held
    | badName | absent => cases done
  | inspect name =>
    have outcome := g.registry.lookup_outcome name
    simp only [execute, Engine.cell] at done
    generalize g.registry.lookup name = result at outcome done
    cases outcome with
    | found good cell held =>
      cases done
      exact .record held
    | badName | absent => cases done
  | has name =>
    cases done
    exact .presence name
  | count =>
    cases done
    exact .size
  | list =>
    simp only [execute] at done
    split at done
    · cases done
    · next some =>
      cases done
      exact .names (by simpa using some)
  | reset => cases done
  | error =>
    cases done
    exact .remark

end Session

/-! ### The channel -/

/-- NULs are left out of a message, and nothing comes in. -/
theorem Channel.plain_ofMessage {status : Status} {m : String} (plain : Text.Plain m.toList) :
    Text.Plain (ofMessage status m).message.toList := by
  intro c mem
  rw [ofMessage, String.toList_ofList] at mem
  exact plain c (List.mem_of_mem_filter mem)

/-- An engine with nothing but printed characters to show: its cells have well-formed names, and its
channel a message without control characters. -/
structure Engine.Presentable (config : EngineConfig) (g : Engine) : Prop where
  registry : g.registry.Sound config
  channel : Text.Plain g.channel.message.toList

namespace Session

variable {config : EngineConfig} {start g after : Engine} {c : Command} {text m : String}

/-- A command brings no control character into the channel. -/
theorem plain_channel_execute (plain : Text.Plain g.channel.message.toList) (c : Command) :
    Text.Plain (execute g c).2.channel.message.toList := by
  have outcome := execute_outcome g c
  generalize execute g c = result at outcome ⊢
  cases outcome with
  | refused acts e fixed => exact Channel.plain_ofMessage (e.plain_message fixed)
  | redefined name value cell taken policy told =>
    rw [told]
    exact Channel.plain_ofMessage (plain_redefinitionNotice name cell.value value)
  | succeeded => exact Text.plain_nil
  | asked => exact plain

/-- **No control character comes into the channel of a session.** -/
theorem plain_channel_afterAll (plain : Text.Plain g.channel.message.toList)
    (read : List (Except CommandError Command)) :
    Text.Plain (afterAll g read).channel.message.toList := by
  induction read generalizing g with
  | nil => exact plain
  | cons x rest ih =>
    cases x with
    | error e => exact ih plain
    | ok c => exact ih (plain_channel_execute plain c)

theorem presentable_afterAll (accepted : Engine.make config = .ok start)
    (read : List (Except CommandError Command)) : (afterAll start read).Presentable config := by
  obtain ⟨-, rfl⟩ := Engine.make_eq_ok_iff.mp accepted
  have nothing : Text.Plain (Engine.new config).channel.message.toList := Text.plain_nil
  refine ⟨?_, plain_channel_afterAll nothing read⟩
  rw [afterAll_eq_run]
  exact Engine.sound_run config (operations read)

/-! ### Printed characters -/

theorem plain_status (s : Status) : Text.Plain s.name.toList := by
  cases s <;> decide

/-- What a command prints is written with printed characters, unless it is a list of names. -/
theorem Prints.plain (prints : Prints g c text) (presentable : g.Presentable config)
    (notList : c ≠ .list) : Text.Plain text.toList := by
  cases prints with
  | value held => exact Binary64.plain_shown _
  | @record name cell held =>
    obtain ⟨names, good, -⟩ := presentable.registry.cells name cell held
    have plainName : Text.Plain cell.name.toList := names ▸ Name.plain_of_good good
    have equals : Text.Plain " = ".toList := by decide
    have opening : Text.Plain " (revision ".toList := by decide
    have comma : Text.Plain ", ".toList := by decide
    have word : Text.Plain cell.lastChange.word.toList := by cases cell.lastChange <;> decide
    have closing : Text.Plain ")".toList := by decide
    simp only [Cell.summary, String.toList_append, Text.plain_append]
    exact ⟨⟨⟨⟨⟨⟨⟨plainName, equals⟩, cell.value.plain_shown⟩, opening⟩,
      Text.plain_toString _⟩, comma⟩, word⟩, closing⟩
  | presence name => split <;> decide
  | size => exact Text.plain_toString _
  | names => exact absurd rfl notList
  | remark =>
    have colon : Text.Plain ": ".toList := by decide
    unfold Channel.summary
    split
    · exact plain_status _
    · simp only [String.toList_append, Text.plain_append]
      exact ⟨⟨plain_status _, colon⟩, presentable.channel⟩

/-- What a command prints does not look like a refusal, unless names stand at the beginning. -/
theorem Prints.not_refusal (prints : Prints g c text) (notList : c ≠ .list)
    (notInspect : ∀ name, c ≠ .inspect name) : ¬ "#ERR ".toList <+: text.toList := by
  have other {c : Char} {cs : List Char} (different : '#' ≠ c) : ¬ "#ERR ".toList <+: c :: cs :=
    fun refusal => different (List.cons_prefix_cons.mp refusal).1
  cases prints with
  | value held => exact Binary64.not_refusal_shown _
  | @record name cell held => exact absurd rfl (notInspect name)
  | presence name => split <;> decide
  | size =>
    obtain ⟨c, cs, digits, digit⟩ := exists_numeral_eq_cons g.size
    have written : (toString g.size).toList = c :: cs := by
      rw [← digits]
      exact String.toList_ofList
    rw [written]
    exact other (Text.ne_of_apply digit (by decide)).symm
  | names => exact absurd rfl notList
  | remark =>
    have status (s : Status) : ∃ c cs, s.name.toList = c :: cs ∧ '#' ≠ c := by
      cases s <;> exact ⟨_, _, rfl, by decide⟩
    obtain ⟨c, cs, letters, different⟩ := status g.channel.status
    unfold Channel.summary
    split
    · rw [letters]
      exact other different
    · rw [String.toList_append, String.toList_append, letters]
      exact other different

end Session

/-! ### What is written -/

/-- An outcome whose text has no line end. -/
def Outcome.OneLine : Outcome → Prop
  | .done => True
  | .output text | .advisory text | .failed text => '\n' ∉ text.toList

/-- A line with its end, and nothing else. -/
def IsLine (s : String) : Prop := ∃ line : String, '\n' ∉ line.toList ∧ s = line ++ "\n"

/-- A text in front of one without line ends is a line when a line end follows. -/
theorem isLine_append {opening text : String} (front : '\n' ∉ opening.toList)
    (oneLine : '\n' ∉ text.toList) : IsLine (opening ++ text ++ "\n") := by
  refine ⟨_, ?_, rfl⟩
  rw [String.toList_append, List.mem_append, not_or]
  exact ⟨front, oneLine⟩

/-- What an outcome writes to the two streams. -/
def Outcome.written (outcome : Outcome) : CommandLine.Report :=
  .ofEmissions (CommandLine.emissions [outcome]) 0

theorem Outcome.written_eq (outcome : Outcome) :
    outcome.written =
      match outcome with
      | .done => ⟨"", "", 0⟩
      | .output text => ⟨text ++ "\n", "", 0⟩
      | .advisory text => ⟨"", "warning: " ++ text ++ "\n", 0⟩
      | .failed text => ⟨"#ERR " ++ text ++ "\n", "", 0⟩ := by
  have line (text : String) : CommandLine.writeLines [text] = text ++ "\n" := by
    rw [CommandLine.writeLines, List.foldl_cons, List.foldl_nil, String.empty_append]
  cases outcome with
  | done => rfl
  | output text => exact congrArg (CommandLine.Report.mk · "" 0) (line text)
  | advisory text => exact congrArg (CommandLine.Report.mk "" · 0) (line _)
  | failed text => exact congrArg (CommandLine.Report.mk · "" 0) (line _)

namespace Outcome

variable {outcome : Outcome} {text : String}

/-- What has no line end is written as one line, if anything is. -/
theorem OneLine.stdout (oneLine : outcome.OneLine) :
    outcome.written.stdout = "" ∨ IsLine outcome.written.stdout := by
  rw [written_eq]
  cases outcome with
  | done | advisory => exact .inl rfl
  | output text => exact .inr ⟨text, oneLine, rfl⟩
  | failed text => exact .inr (isLine_append (by decide) oneLine)

/-- A notice is written to the other stream. -/
theorem OneLine.written_advisory (oneLine : (advisory text).OneLine) :
    (advisory text).written.stdout = "" ∧ IsLine (advisory text).written.stderr := by
  rw [written_eq]
  exact ⟨rfl, isLine_append (by decide) oneLine⟩

/-- Nothing else is written there. -/
theorem stderr_written (notAdvisory : ∀ notice, outcome ≠ .advisory notice) :
    outcome.written.stderr = "" := by
  rw [written_eq]
  cases outcome with
  | done | output | failed => rfl
  | advisory text => exact absurd rfl (notAdvisory text)

/-- A failure is written as a line that tells so. -/
theorem OneLine.written_failed (oneLine : outcome.OneLine) (failure : outcome.isFailure = true) :
    IsLine outcome.written.stdout ∧ "#ERR ".toList <+: outcome.written.stdout.toList := by
  rw [written_eq]
  cases outcome with
  | done | output | advisory => cases failure
  | failed text =>
    refine ⟨isLine_append (by decide) oneLine, ?_⟩
    simp only [String.toList_append, List.append_assoc]
    exact List.prefix_append _ _

/-- What tells of a failure does so in the text, and not in the line end. -/
theorem refusal_of_written_output
    (begins : "#ERR ".toList <+: (output text).written.stdout.toList) :
    "#ERR ".toList <+: text.toList := by
  rw [written_eq, String.toList_append] at begins
  rcases List.prefix_concat_iff.mp begins with whole | inside
  · have mem : '\n' ∈ "#ERR ".toList := whole ▸ List.mem_append_right _ List.mem_cons_self
    exact absurd mem (by decide)
  · exact inside

end Outcome

namespace CommandLine

/-- What a run writes is what its outcomes write, one after the other. -/
theorem written_emissions (outcomes : List Outcome) (code : Nat) :
    (Report.ofEmissions (emissions outcomes) code).stdout =
        String.join (outcomes.map fun outcome => outcome.written.stdout) ∧
      (Report.ofEmissions (emissions outcomes) code).stderr =
        String.join (outcomes.map fun outcome => outcome.written.stderr) := by
  induction outcomes with
  | nil => exact ⟨rfl, rfl⟩
  | cons outcome rest ih =>
    obtain ⟨stdout, stderr⟩ :=
      Report.ofEmissions_append (emissions [outcome]) (emissions rest) code 0 code
    rw [← emissions_append, List.singleton_append] at stdout stderr
    rw [stdout, stderr, ih.1, ih.2, List.map_cons, List.map_cons, String.join_cons,
      String.join_cons]
    exact ⟨rfl, rfl⟩

/-- A list of names as a command prints it is a line for each name. -/
theorem intercalate_append_lineFeed {lines : List String} (some : lines ≠ []) :
    "\n".intercalate lines ++ "\n" = writeLines lines := by
  induction lines with
  | nil => exact absurd rfl some
  | cons line rest ih =>
    rw [← List.singleton_append, writeLines_append, List.singleton_append]
    cases rest with
    | nil => simp [writeLines]
    | cons next rest =>
      rw [String.intercalate_cons_cons, String.append_assoc, ih (List.cons_ne_nil _ _)]
      simp [writeLines]

/-- **Lines are read back by cutting at line ends.** -/
theorem splitOn_writeLines {lines : List String} (oneLine : ∀ line ∈ lines, '\n' ∉ line.toList) :
    (writeLines lines).toList.splitOn '\n' = lines.map String.toList ++ [[]] := by
  induction lines with
  | nil => rfl
  | cons line rest ih =>
    obtain ⟨first, others⟩ := List.forall_mem_cons.mp oneLine
    have text : (writeLines (line :: rest)).toList =
        line.toList ++ '\n' :: (writeLines rest).toList := by
      rw [← List.singleton_append, writeLines_append]
      simp [writeLines]
    rw [text, List.splitOn_append_cons_self, List.splitOn_eq_singleton first, ih others]
    rfl

end CommandLine

/-! ### A segment -/

namespace Session

variable {config : EngineConfig} {g : Engine} {c : Command} {segment : String}

/-- A text that a command gives has no line end, unless it is a list of names. -/
theorem oneLine_execute (presentable : g.Presentable config)
    (noList : c ≠ .list ∨ (execute g c).1.isQuiet = false) : (execute g c).1.OneLine := by
  rcases done : execute g c with ⟨outcome, after⟩
  rw [done] at noList
  have told {m : String} (told : outcome = .failed m ∨ outcome = .advisory m) :
      '\n' ∉ m.toList := by
    have plain : Text.Plain (execute g c).2.channel.message.toList :=
      plain_channel_execute presentable.channel c
    have same : after.channel.message = m := (lastError_of_told done told).1
    rw [done, same] at plain
    exact plain.notMem (by decide)
  cases outcome with
  | done => trivial
  | output text =>
    have notList : c ≠ .list := noList.resolve_right nofun
    exact ((prints_of_execute done).plain presentable notList).notMem (by decide)
  | advisory m => exact told (.inr rfl)
  | failed m => exact told (.inl rfl)

/-- **A text that a segment gives has no line end**, unless it is a list of names. -/
theorem oneLine_runSegment (presentable : g.Presentable config) {text : String}
    (cut : segment ∈ Script.segments text)
    (noList : Command.parse segment ≠ .ok .list ∨ (runSegment g segment).1.isQuiet = false) :
    (runSegment g segment).1.OneLine := by
  rw [runSegment_eq_respond] at noList ⊢
  cases parsed : Command.parse segment with
  | error e =>
    have oneLine : '\n' ∉ segment.toList := Script.lineFeed_notMem_of_mem_segments cut
    exact (Command.quotedFrom_of_parse parsed).lineFeed_notMem oneLine
  | ok c =>
    rw [parsed] at noList
    exact oneLine_execute presentable (noList.imp_left fun other same => other (by rw [same]))

end Session

/-- The names of the cells are lines. -/
theorem Engine.Presentable.lineFeed_notMem {config : EngineConfig} {g : Engine}
    (presentable : g.Presentable config) : ∀ name ∈ g.names, '\n' ∉ name.toList := by
  intro name listed
  have good : Name.fault? name = none :=
    presentable.registry.good_of_contains (Registry.mem_names.mp listed)
  exact (Name.plain_of_good good).notMem (by decide)

/-- The names are listed in lines, if there are any. -/
theorem Session.stdout_written_list (g : Engine) :
    (execute g .list).1.written.stdout = CommandLine.writeLines g.names := by
  simp only [execute]
  by_cases none : g.names.isEmpty = true
  · rw [if_pos none, List.isEmpty_iff.mp none]
    rfl
  · have some : g.names ≠ [] := fun empty => none (List.isEmpty_iff.mpr empty)
    rw [if_neg none, Outcome.written_eq]
    exact CommandLine.intercalate_append_lineFeed some

/-- **Only what fails looks like a refusal**, unless names stand at the beginning. -/
theorem Session.failed_of_refusal {g : Engine} {c : Command} (notList : c ≠ .list)
    (notInspect : ∀ name, c ≠ .inspect name)
    (begins : "#ERR ".toList <+: (execute g c).1.written.stdout.toList) :
    (execute g c).1.isFailure = true := by
  rcases done : execute g c with ⟨outcome, after⟩
  rw [done] at begins
  cases outcome with
  | failed m => rfl
  | done | advisory =>
    rw [Outcome.written_eq] at begins
    have nothing : ¬ "#ERR ".toList <+: "".toList := by decide
    exact absurd begins nothing
  | output text =>
    have refusal : "#ERR ".toList <+: text.toList := Outcome.refusal_of_written_output begins
    exact absurd refusal ((prints_of_execute done).not_refusal notList notInspect)

/-- **What is printed, line by line.**  In every session, a segment of any text writes nothing to
the first stream, or one line; only a list of names is a line for each name, in order, so that
cutting at the line ends gives the names back.  A notice is one line on the second stream and
nothing on the first.  What fails writes one line that begins with `#ERR `, and apart from the two
commands whose output begins with names, only what fails does. -/
theorem output_line_by_line {config : EngineConfig} {start : Engine}
    (accepted : Engine.make config = .ok start) (read : List (Except CommandError Command))
    {text segment : String} (cut : segment ∈ Script.segments text) :
    let g := Session.afterAll start read
    let outcome := (Session.runSegment g segment).1
    let written := outcome.written
    (Command.parse segment ≠ .ok .list → written.stdout = "" ∨ IsLine written.stdout) ∧
    (Command.parse segment = .ok .list → written.stdout = CommandLine.writeLines g.names ∧
      g.names.length = g.size ∧
      written.stdout.toList.splitOn '\n' = g.names.map String.toList ++ [[]]) ∧
    (∀ notice, outcome = .advisory notice → written.stdout = "" ∧ IsLine written.stderr) ∧
    ((∀ notice, outcome ≠ .advisory notice) → written.stderr = "") ∧
    (∀ e, Command.parse segment = .error e → outcome.isFailure = true) ∧
    (outcome.isFailure = true →
      IsLine written.stdout ∧ "#ERR ".toList <+: written.stdout.toList) ∧
    (∀ c, Command.parse segment = .ok c → c ≠ .list → (∀ name, c ≠ .inspect name) →
      "#ERR ".toList <+: written.stdout.toList → outcome.isFailure = true) := by
  intro g outcome written
  have presentable : g.Presentable config := Session.presentable_afterAll accepted read
  have ran : outcome = (Session.respond g (Command.parse segment)).1 := by
    rw [← Session.runSegment_eq_respond]
  have oneLine (noList : Command.parse segment ≠ .ok .list ∨ outcome.isQuiet = false) :
      outcome.OneLine := Session.oneLine_runSegment presentable cut noList
  refine ⟨fun notList => (oneLine (.inl notList)).stdout, ?_, ?_, Outcome.stderr_written,
    ?_, ?_, ?_⟩
  · intro list
    have lines : written.stdout = CommandLine.writeLines g.names := by
      show outcome.written.stdout = _
      rw [ran, list]
      exact Session.stdout_written_list g
    refine ⟨lines, g.registry.length_names, ?_⟩
    rw [lines]
    exact CommandLine.splitOn_writeLines presentable.lineFeed_notMem
  · intro notice told
    have noLineEnd : (Outcome.advisory notice).OneLine := by
      rw [← told]
      exact oneLine (.inr (by rw [told]; rfl))
    show outcome.written.stdout = "" ∧ IsLine outcome.written.stderr
    rw [told]
    exact noLineEnd.written_advisory
  · intro e misread
    rw [ran, misread]
    rfl
  · intro failure
    have told : outcome.isQuiet = false := by
      cases equal : outcome <;> rw [equal] at failure <;> cases failure
      rfl
    exact (oneLine (.inr told)).written_failed failure
  · intro c parsed notList notInspect begins
    have executed : outcome = (Session.execute g c).1 := by rw [ran, parsed]; rfl
    rw [show written = outcome.written from rfl, executed] at begins
    rw [executed]
    exact Session.failed_of_refusal notList notInspect begins

/-- A cell whose name looks like a refusal is listed before another one; then it is created once
more, and a line is misspelt. -/
theorem output_line_by_line_lookalike :
    let read := ["create \"#ERR a\" 1", "create b 2"].map Command.parse
    let g := Session.afterAll (Engine.new {}) read
    let text := "list; create \"#ERR a\" 3 ; gte\tb"
    let written := fun segment => (Session.runSegment g segment).1.written
    Engine.make {} = .ok (Engine.new {}) ∧
      Script.segments text = ["list", "create \"#ERR a\" 3", "gte\tb"] ∧
      (written "list").stdout.toList.splitOn '\n' = ["#ERR a".toList, "b".toList, []] ∧
      (written "create \"#ERR a\" 3").stdout = "" ∧
      IsLine (written "create \"#ERR a\" 3").stderr ∧
      IsLine (written "gte\tb").stdout ∧ (written "gte\tb").stderr = "" := by
  intro read g text written
  have accepted : Engine.make {} = .ok (Engine.new {}) := rfl
  have segments : Script.segments text = ["list", "create \"#ERR a\" 3", "gte\tb"] := by
    decide +kernel
  have collected : g.registry.cells.keys = ["#ERR a", "b"] := by decide +kernel
  have names : g.names = ["#ERR a", "b"] := by
    show g.registry.cells.keys.mergeSort = _
    rw [collected]
    exact List.mergeSort_of_pairwise (by decide)
  have list : "list" ∈ Script.segments text := by rw [segments]; decide
  have twice : "create \"#ERR a\" 3" ∈ Script.segments text := by rw [segments]; decide
  have misspelt : "gte\tb" ∈ Script.segments text := by rw [segments]; decide
  obtain ⟨-, listed, -⟩ := output_line_by_line accepted read list
  obtain ⟨-, -, split⟩ := listed rfl
  obtain ⟨-, -, told, -⟩ := output_line_by_line accepted read twice
  have redefined : (Session.runSegment g "create \"#ERR a\" 3").1 =
      .advisory (redefinitionNotice "#ERR a" (.ofNat 1) (.ofNat 3)) := by decide +kernel
  obtain ⟨nothing, notice⟩ := told _ redefined
  obtain ⟨-, -, -, silent, -, failed, -⟩ := output_line_by_line accepted read misspelt
  obtain ⟨line, -⟩ := failed rfl
  rw [names] at split
  exact ⟨accepted, segments, split, nothing, notice, line, silent nofun⟩

end NamedCells
