import Mathlib.Data.List.Induction
import NamedCells.Proofs.Batch
import NamedCells.Proofs.LoadedSettings

/-!
# The order of arguments

Arguments are read from the left, but what they ask for hardly depends on their order.  An option
and its value make a group, and so does a script.  What the groups leave behind is known from the
last commands, the last file of settings, and whether there is a script and the option to ignore
settings; the order of different kinds of groups does not matter, and neither does it matter what
the values look like.

Every list of arguments begins with groups.  If there is something behind them, the reading stops
there, because of the help or because of a fault.

## Main definitions

* `OptionGroup` — an option with all that belongs to it, or a script.
* `OptionGroup.AtMostOneScript` — the groups among which there is no second script.
* `Options.ofGroups` — what groups ask for.
* `Invocation.StopsAt` — what ends the reading of arguments behind groups.
* `CommandLine.batchReport`, `CommandLine.inputReport` — what a program writes that carries out a
  batch or its input after some warnings.

## Main results

* `Invocation.scan_groups` — **groups are read one after the other**, whatever follows.
* `Options.ofGroups_eq_of_perm` — what groups ask for does not depend on their order.
* `Invocation.exists_groups` — every list of arguments begins with groups.
* `CommandLine.beginRun_eq` — what is begun is what the options say, with the engine for the
  settings.
* `CommandLine.argument_order` — **the order of arguments does not matter**, what groups make the
  program do, and how the reading of other arguments ends.
-/

namespace NamedCells

/-- An option with all that belongs to it, or a script.  Any text may be a value. -/
inductive OptionGroup where
  /-- Commands behind one of the two options for them. -/
  | commands (isShort : Bool) (text : String)
  /-- The option for a file of settings, with its path. -/
  | settings (path : String)
  /-- The option to ignore settings. -/
  | noSettings
  /-- A script, which does not look like an option. -/
  | script (path : String) (positional : path.toList.head? ≠ some '-')
  deriving DecidableEq

namespace OptionGroup

/-- The arguments of a group. -/
def arguments : OptionGroup → List String
  | commands isShort text => [if isShort then "-c" else "--command", text]
  | settings path => ["--config", path]
  | noSettings => ["--no-config"]
  | script path _ => [path]

/-- The commands of a group. -/
def commands? : OptionGroup → Option String
  | commands _ text => some text
  | _ => none

/-- The file of settings of a group. -/
def settings? : OptionGroup → Option String
  | settings path => some path
  | _ => none

/-- The script of a group. -/
def script? : OptionGroup → Option String
  | script path _ => some path
  | _ => none

/-- There is no second script among the groups. -/
def AtMostOneScript (gs : List OptionGroup) : Prop := (gs.filterMap script?).length ≤ 1

instance (gs : List OptionGroup) : Decidable (AtMostOneScript gs) :=
  inferInstanceAs (Decidable (_ ≤ _))

/-- What is asked for after one more group. -/
def addTo (options : Options) : OptionGroup → Options
  | commands _ text => { options with commands := some text }
  | settings path => { options with settings := { options.settings with file := some path } }
  | noSettings => { options with settings := { options.settings with ignoreFiles := true } }
  | script path _ => { options with script := some path }

end OptionGroup

open OptionGroup

/-- What groups ask for: the last commands and the last file of settings count. -/
def Options.ofGroups (gs : List OptionGroup) : Options where
  commands := (gs.filterMap commands?).getLast?
  script := (gs.filterMap script?).getLast?
  settings :=
    { file := (gs.filterMap settings?).getLast?
      ignoreFiles := gs.contains .noSettings }

variable {gs hs : List OptionGroup} {options : Options} {arguments rest : List String}

/-! ### Groups -/

theorem Options.foldl_addTo (gs : List OptionGroup) : gs.foldl addTo {} = ofGroups gs := by
  induction gs using List.reverseRecOn with
  | nil => rfl
  | append_singleton gs g ih =>
    rw [List.foldl_append, ih, List.foldl_cons, List.foldl_nil]
    cases g <;> simp [addTo, ofGroups, commands?, settings?, script?]

/-- **What groups ask for does not depend on their order**, as long as the commands and the files of
settings keep theirs. -/
theorem Options.ofGroups_eq_of_perm (single : AtMostOneScript gs) (reordered : gs.Perm hs)
    (commands : gs.filterMap commands? = hs.filterMap commands?)
    (settings : gs.filterMap settings? = hs.filterMap settings?) : ofGroups gs = ofGroups hs := by
  have script : gs.filterMap script? = hs.filterMap script? := by
    have scripts := reordered.filterMap script?
    cases shape : gs.filterMap script? with
    | nil =>
      rw [shape] at scripts
      exact (List.nil_perm.mp scripts).symm
    | cons path others =>
      rw [AtMostOneScript, shape] at single
      have none : others.length ≤ 0 := Nat.le_of_succ_le_succ single
      obtain rfl := List.length_eq_zero_iff.mp (Nat.le_zero.mp none)
      rw [shape] at scripts
      exact List.singleton_perm.mp scripts
  have ignored : gs.contains .noSettings = hs.contains .noSettings := reordered.contains_eq
  rw [ofGroups, commands, settings, script, ignored, ofGroups]

namespace Invocation

theorem startsWith_dash_iff {s : String} : s.startsWith "-" = true ↔ s.toList.head? = some '-' := by
  rw [String.startsWith_string_iff]
  cases s.toList with
  | nil => decide
  | cons c cs => simp [eq_comm]

/-- What does not look like an option is a script. -/
theorem scan_positional {path : String} (positional : path.toList.head? ≠ some '-')
    (options : Options) (rest : List String) :
    scan options (path :: rest) =
      if options.script.isSome then .refused (.secondScript path)
      else scan { options with script := some path } rest := by
  have other {s : String} (dash : s.toList.head? = some '-') : path ≠ s := by
    rintro rfl
    exact positional dash
  have help : ¬ (path = "-h" ∨ path = "--help") :=
    not_or.mpr ⟨other (by decide), other (by decide)⟩
  have commands : ¬ (path = "-c" ∨ path = "--command") :=
    not_or.mpr ⟨other (by decide), other (by decide)⟩
  rw [scan.eq_def]
  dsimp only
  rw [if_neg help, if_neg commands, if_neg (other (by decide)), if_neg (other (by decide)),
    if_neg (mt startsWith_dash_iff.mp positional)]

/-- A group is read, unless it is a second script. -/
theorem scan_arguments {g : OptionGroup} (room : g.script? = none ∨ options.script = none)
    (rest : List String) : scan options (g.arguments ++ rest) = scan (g.addTo options) rest := by
  cases g with
  | commands isShort text => cases isShort <;> simp [scan, OptionGroup.arguments, addTo]
  | settings path => simp [scan, OptionGroup.arguments, addTo]
  | noSettings =>
    rw [OptionGroup.arguments, List.singleton_append, scan.eq_def]
    simp [addTo]
  | script path positional =>
    have none : options.script = none := by simpa [script?] using room
    rw [OptionGroup.arguments, List.singleton_append, scan_positional positional,
      if_neg (by simp [none])]
    rfl

/-- **Groups are read one after the other**, whatever follows. -/
theorem scan_groups (options : Options)
    (single : (options.script.toList ++ gs.filterMap script?).length ≤ 1)
    (rest : List String) :
    scan options (gs.flatMap OptionGroup.arguments ++ rest) =
      scan (gs.foldl addTo options) rest := by
  induction gs generalizing options with
  | nil => rfl
  | cons g gs ih =>
    cases g with
    | script path positional =>
      have single : (options.script.toList ++ path :: gs.filterMap script?).length ≤ 1 := single
      have none : options.script = none := by
        cases given : options.script with
        | none => rfl
        | some other => simp [given] at single
      rw [List.flatMap_cons, List.append_assoc, scan_arguments (.inr none), List.foldl_cons]
      apply ih
      simpa [addTo, none] using single
    | commands | settings | noSettings =>
      rw [List.flatMap_cons, List.append_assoc, scan_arguments (.inl rfl), List.foldl_cons]
      exact ih _ single

/-- The reading goes on with what the groups ask for. -/
theorem ofArguments_append (single : AtMostOneScript gs) (rest : List String) :
    ofArguments (gs.flatMap OptionGroup.arguments ++ rest) = scan (Options.ofGroups gs) rest := by
  rw [← Options.foldl_addTo]
  exact scan_groups {} single rest

/-- Groups ask for what they leave behind, unless there are commands and a script. -/
theorem ofArguments_groups (single : AtMostOneScript gs) :
    ofArguments (gs.flatMap OptionGroup.arguments) =
      if (Options.ofGroups gs).commands.isSome && (Options.ofGroups gs).script.isSome then
        .refused .commandsAndScript
      else .run (Options.ofGroups gs) := by
  rw [← List.append_nil (gs.flatMap _), ofArguments_append single, scan]

/-! ### What ends the reading -/

/-- What ends the reading of arguments behind groups: the help option, or a fault. -/
inductive StopsAt (gs : List OptionGroup) : List String → Invocation → Prop
  | help {argument : String} {rest : List String} (option : argument = "-h" ∨ argument = "--help") :
    StopsAt gs (argument :: rest) .help
  | commandsMissing {argument : String} (option : argument = "-c" ∨ argument = "--command") :
    StopsAt gs [argument] (.refused .commandsMissing)
  | settingsPathMissing : StopsAt gs ["--config"] (.refused .settingsPathMissing)
  | unknownOption {argument : String} {rest : List String} (dash : argument.toList.head? = some '-')
    (unknown : argument ∉ ["-h", "--help", "-c", "--command", "--config", "--no-config"]) :
    StopsAt gs (argument :: rest) (.refused (.unknownOption argument))
  | secondScript {argument : String} {rest : List String}
    (positional : argument.toList.head? ≠ some '-')
    (second : ¬ AtMostOneScript (gs ++ [.script argument positional])) :
    StopsAt gs (argument :: rest) (.refused (.secondScript argument))

/-- The reading ends there. -/
theorem StopsAt.ofArguments_eq {ending : Invocation} (stops : StopsAt gs rest ending)
    (single : AtMostOneScript gs) :
    ofArguments (gs.flatMap OptionGroup.arguments ++ rest) = ending := by
  rw [ofArguments_append single]
  cases stops with
  | help option =>
    rw [scan.eq_def]
    exact if_pos option
  | commandsMissing option =>
    rcases option with rfl | rfl <;> rfl
  | settingsPathMissing => rfl
  | unknownOption dash unknown =>
    simp only [List.mem_cons, List.not_mem_nil, or_false, not_or] at unknown
    rw [scan.eq_def]
    simp [unknown, startsWith_dash_iff.mpr dash]
  | @secondScript path rest positional second =>
    have given : (Options.ofGroups gs).script.isSome = true := by
      refine List.getLast?_isSome.mpr fun none => second ?_
      simp [AtMostOneScript, none, script?]
    rw [scan_positional positional, if_pos given]

/-- Arguments are at an end, begin with a group, or stop the reading. -/
theorem exists_group_or_stopsAt (single : AtMostOneScript gs) (arguments : List String) :
    arguments = [] ∨
      (∃ g rest, arguments = g.arguments ++ rest ∧ AtMostOneScript (gs ++ [g])) ∨
      ∃ ending, StopsAt gs arguments ending := by
  have group {g : OptionGroup} (none : g.script? = none) : AtMostOneScript (gs ++ [g]) := by
    simpa [AtMostOneScript, none] using single
  cases arguments with
  | nil => exact .inl rfl
  | cons argument rest =>
    refine .inr ?_
    by_cases dash : argument.toList.head? = some '-'
    · by_cases known : argument ∈ ["-h", "--help", "-c", "--command", "--config", "--no-config"]
      · simp only [List.mem_cons, List.not_mem_nil, or_false] at known
        rcases known with rfl | rfl | rfl | rfl | rfl | rfl
        · exact .inr ⟨_, .help (.inl rfl)⟩
        · exact .inr ⟨_, .help (.inr rfl)⟩
        · cases rest with
          | nil => exact .inr ⟨_, .commandsMissing (.inl rfl)⟩
          | cons text rest => exact .inl ⟨.commands true text, rest, rfl, group rfl⟩
        · cases rest with
          | nil => exact .inr ⟨_, .commandsMissing (.inr rfl)⟩
          | cons text rest => exact .inl ⟨.commands false text, rest, rfl, group rfl⟩
        · cases rest with
          | nil => exact .inr ⟨_, .settingsPathMissing⟩
          | cons path rest => exact .inl ⟨.settings path, rest, rfl, group rfl⟩
        · exact .inl ⟨.noSettings, rest, rfl, group rfl⟩
      · exact .inr ⟨_, .unknownOption dash known⟩
    · by_cases more : AtMostOneScript (gs ++ [.script argument dash])
      · exact .inl ⟨.script argument dash, rest, rfl, more⟩
      · exact .inr ⟨_, .secondScript dash more⟩

/-- **Every list of arguments begins with groups**, behind which it is at its end or stops. -/
theorem exists_groups (single : AtMostOneScript gs) (arguments : List String) :
    ∃ hs, AtMostOneScript (gs ++ hs) ∧
      (arguments = hs.flatMap OptionGroup.arguments ∨
        ∃ rest ending, arguments = hs.flatMap OptionGroup.arguments ++ rest ∧
          StopsAt (gs ++ hs) rest ending) := by
  induction length : arguments.length using Nat.strongRecOn generalizing gs arguments with
  | ind n shorter =>
    subst length
    rcases exists_group_or_stopsAt single arguments with
      rfl | ⟨g, rest, rfl, more⟩ | ⟨ending, stops⟩
    · exact ⟨[], by simpa using single, .inl rfl⟩
    · have less : rest.length < (g.arguments ++ rest).length := by
        rw [List.length_append]
        exact Nat.lt_add_of_pos_left (by cases g <;> simp [OptionGroup.arguments])
      obtain ⟨hs, single', split⟩ := shorter _ less more rest rfl
      rw [List.append_assoc, List.singleton_append] at single' split
      refine ⟨g :: hs, single', ?_⟩
      simp only [List.flatMap_cons, List.append_assoc, List.append_cancel_left_eq]
      exact split
    · exact ⟨[], by simpa using single, .inr ⟨arguments, ending, rfl, by simpa using stops⟩⟩

end Invocation

/-! ### Reports -/

namespace Outcome

/-- The line that an outcome puts on the stream that programs follow. -/
def outputLine? : Outcome → Option String
  | .output text => some text
  | .failed text => some ("#ERR " ++ text)
  | _ => none

/-- The line that an outcome puts on the stream of notices. -/
def noticeLine? : Outcome → Option String
  | .advisory text => some ("warning: " ++ text)
  | _ => none

theorem emission_bind_output? (outcome : Outcome) :
    outcome.emission.bind Emission.output? = outcome.outputLine? := by
  cases outcome <;> rfl

theorem emission_bind_notice? (outcome : Outcome) :
    outcome.emission.bind Emission.notice? = outcome.noticeLine? := by
  cases outcome <;> rfl

end Outcome

namespace CommandLine

/-- The report of a program that warned of something, then carried out commands, and may have ended
with an error. -/
def reportOf (warnings : List String) (outcomes : List Outcome) (error : Option String)
    (code : Nat) : Report where
  stdout := writeLines (outcomes.filterMap Outcome.outputLine?)
  stderr := writeLines (warnings.map ("Warning: " ++ ·) ++ outcomes.filterMap Outcome.noticeLine? ++
    (error.map ("Error: " ++ ·)).toList)
  code

/-- The report of a batch: it ends at the first failure, and its exit code tells of one. -/
def batchReport (warnings : List String) (g : Engine) (text : String) : Report :=
  let outcomes := (Session.runUntilFailure g (Script.segments text)).1
  reportOf warnings outcomes none (if outcomes.any Outcome.isFailure then 1 else 0)

/-- The report of an input: it ends at a line that is no text, and its exit code tells of one. -/
def inputReport (warnings : List String) (g : Engine) (input : List UInt8) : Report :=
  let lines := inputLines input
  let fault := inputFault? lines
  reportOf warnings ((inputSteps g lines).map Session.Step.outcome)
    (fault.map fun fault => "reading stdin: " ++ fault.message) (if fault.isSome then 1 else 0)

theorem filterMap_output?_err {α : Type} (notice : α → String) (xs : List α) :
    (xs.map fun x => Emission.err (notice x)).filterMap Emission.output? = [] := by
  rw [List.filterMap_map]
  exact List.filterMap_eq_nil_iff.mpr fun _ _ => rfl

theorem filterMap_notice?_err {α : Type} (notice : α → String) (xs : List α) :
    (xs.map fun x => Emission.err (notice x)).filterMap Emission.notice? = xs.map notice := by
  rw [List.filterMap_map]
  exact congrFun List.filterMap_eq_map xs

/-- A report of notices only. -/
theorem ofEmissions_err (lines : List String) (code : Nat) :
    Report.ofEmissions (lines.map .err) code = ⟨"", writeLines lines, code⟩ := by
  have outputs : (lines.map Emission.err).filterMap Emission.output? = [] :=
    filterMap_output?_err id lines
  have notices : (lines.map Emission.err).filterMap Emission.notice? = lines :=
    (filterMap_notice?_err id lines).trans (List.map_id lines)
  rw [Report.ofEmissions, outputs, notices]
  rfl

/-- Warnings, then what outcomes write, and then an error make the report of them. -/
theorem ofEmissions_eq_reportOf (warnings : List String) (outcomes : List Outcome)
    (error : Option String) (code : Nat) :
    Report.ofEmissions (warnings.map (fun warning => .err ("Warning: " ++ warning)) ++
      (emissions outcomes ++ (error.map errorLine).toList)) code =
      reportOf warnings outcomes error code := by
  have outputs : (emissions outcomes).filterMap Emission.output? =
      outcomes.filterMap Outcome.outputLine? := by
    simp only [emissions, List.filterMap_filterMap, Outcome.emission_bind_output?]
  have notices : (emissions outcomes).filterMap Emission.notice? =
      outcomes.filterMap Outcome.noticeLine? := by
    simp only [emissions, List.filterMap_filterMap, Outcome.emission_bind_notice?]
  rw [Report.ofEmissions, reportOf]
  simp only [List.filterMap_append, filterMap_output?_err, filterMap_notice?_err, outputs, notices]
  cases error with
  | none => simp
  | some text => simp [errorLine, List.filterMap_cons, Emission.output?, Emission.notice?]

/-! ### What the program does -/

variable (env : Environment) (files : String → FileEntry) (input : List UInt8)

theorem run_of_help (help : Invocation.ofArguments arguments = .help) :
    run env files arguments input = ⟨"", writeLines helpLines, 0⟩ := by
  rw [run, begin, help]
  exact ofEmissions_err helpLines 0

theorem run_of_refused {fault : UsageFault}
    (refused : Invocation.ofArguments arguments = .refused fault) :
    run env files arguments input =
      ⟨"", writeLines (("Error: " ++ fault.message) :: if fault.showsHelp then helpLines else []),
        1⟩ := by
  have written : errorLine fault.message :: (if fault.showsHelp then CommandLine.help else []) =
      (("Error: " ++ fault.message) :: if fault.showsHelp then helpLines else []).map .err := by
    cases fault.showsHelp <;> rfl
  rw [run, begin, refused]
  dsimp only
  rw [written, ofEmissions_err]

/-- What the program warns of before it begins. -/
def warningsOf (env : Environment) (loaded : Settings × List SettingsWarning) : List String :=
  loaded.2.map SettingsWarning.message ++ (logWarning env loaded.1).toList

/-- What is written for warnings. -/
def warned (warnings : List String) : List Emission :=
  warnings.map fun warning => .err ("Warning: " ++ warning)

variable {env files input} {warnings : List String} {g : Engine} {text : String}

theorem run_of_batchBegun (begun : begin env files arguments = .batch (warned warnings) g text) :
    run env files arguments input = batchReport warnings g text := by
  rw [run, begun, batchReport, ← ofEmissions_eq_reportOf]
  simp [runBatch, warned]

theorem run_of_inputBegun (begun : begin env files arguments = .input (warned warnings) g) :
    run env files arguments input = inputReport warnings g input := by
  rw [run, begun, inputReport, ← ofEmissions_eq_reportOf]
  simp only [runInput_eq_steps]
  cases inputFault? (inputLines input) <;> rfl

theorem run_of_stopBegun {error : String}
    (begun : begin env files arguments = .stop (warned warnings ++ [errorLine error]) 1) :
    run env files arguments input = reportOf warnings [] (some error) 1 := by
  rw [run, begun, ← ofEmissions_eq_reportOf]
  rfl

variable (env files)

/-- What is begun is what the options say, with the engine for the settings. -/
theorem beginRun_eq (options : Options) :
    let loaded := Settings.load env.readDocument env.settingsPath files options.settings
    let written := warned (warningsOf env loaded)
    let g := Engine.new loaded.1.engine
    beginRun env files options =
      match options.commands, options.script with
      | some text, _ => .batch written g text
      | none, some path =>
        match (files path).readText with
        | .ok text => .batch written g text
        | .error fault => .stop (written ++ [errorLine (s!"reading {path}: " ++ fault.message)]) 1
      | none, none => .input written g := by
  intro loaded written g
  have made : Engine.make loaded.1.engine = .ok g := Engine.make_eq_ok_iff.mpr
    ⟨(Settings.load_outcome env.readDocument env.settingsPath files options.settings).hasRoom, rfl⟩
  unfold beginRun
  simp only [show Settings.load _ _ _ _ = loaded from rfl, made]
  rfl

/-- **The order of arguments does not matter.**  Take groups among which there is no second script.

In another order, in which the commands and the files of settings follow one another as before, they
make the program write the same, with the same exit code.  What it does is this:

* The settings are the default ones, without a warning, if settings are to be ignored; else those of
  the last file that is named, or of the usual one if none is named.
* With commands and a script among them the program refuses them.
* Otherwise it gives the warnings about the settings, and an engine for the settings carries out the
  last commands or the text of the script as a batch, up to the first failure, which makes the exit
  code 1.  A script that cannot be read is an error, and the exit code is 1.
* Without commands and a script it carries out the input line by line, up to a line that is no text,
  which makes the exit code 1.

Any list of arguments begins with such groups, and may stop behind them.  If it stops at the help
option, the exit code is 0, and if it stops at a fault, the exit code is 1.  In both cases nothing
is written for programs that follow. -/
theorem argument_order (input : List UInt8) :
    (∀ gs hs : List OptionGroup, AtMostOneScript gs → gs.Perm hs →
      gs.filterMap commands? = hs.filterMap commands? →
      gs.filterMap settings? = hs.filterMap settings? →
      run env files (gs.flatMap OptionGroup.arguments) input =
        run env files (hs.flatMap OptionGroup.arguments) input) ∧
    (∀ gs : List OptionGroup, AtMostOneScript gs →
      let report := run env files (gs.flatMap OptionGroup.arguments) input
      let commands := (gs.filterMap commands?).getLast?
      let script := (gs.filterMap script?).getLast?
      let loaded := Settings.load env.readDocument env.settingsPath files
        { file := (gs.filterMap settings?).getLast?, ignoreFiles := gs.contains .noSettings }
      let g := Engine.new loaded.1.engine
      let warnings := warningsOf env loaded
      (.noSettings ∈ gs → loaded = ({}, [])) ∧
      (.noSettings ∉ gs → ∀ path, (gs.filterMap settings?).getLast? = some path →
        loaded = Settings.ofEntry env.readDocument path true (files path)) ∧
      (.noSettings ∉ gs → gs.filterMap settings? = [] →
        loaded = match env.settingsPath with
          | none => ({}, [])
          | some path => Settings.ofEntry env.readDocument path false (files path)) ∧
      (commands ≠ none → script ≠ none → report =
        ⟨"", "Error: --command and SCRIPT cannot be combined\n", 1⟩) ∧
      (∀ text, commands = some text → script = none → report = batchReport warnings g text) ∧
      (∀ path text, commands = none → script = some path →
        (files path).readText = .ok text → report = batchReport warnings g text) ∧
      (∀ path fault, commands = none → script = some path →
        (files path).readText = .error fault →
        report = reportOf warnings [] (some (s!"reading {path}: " ++ fault.message)) 1) ∧
      (commands = none → script = none → report = inputReport warnings g input)) ∧
    (∀ arguments, ∃ gs, AtMostOneScript gs ∧
      (arguments = gs.flatMap OptionGroup.arguments ∨ ∃ rest ending,
        arguments = gs.flatMap OptionGroup.arguments ++ rest ∧
          Invocation.StopsAt gs rest ending)) ∧
    ∀ gs rest, AtMostOneScript gs →
      let report := run env files (gs.flatMap OptionGroup.arguments ++ rest) input
      (Invocation.StopsAt gs rest .help → report.code = 0 ∧ report.stdout = "") ∧
      ∀ fault, Invocation.StopsAt gs rest (.refused fault) →
        report.code = 1 ∧ report.stdout = "" := by
  refine ⟨?_, ?_, ?_, ?_⟩
  · intro gs hs single reordered commands settings
    have single' : AtMostOneScript hs := by
      rwa [AtMostOneScript, ← (reordered.filterMap script?).length_eq]
    have same := Options.ofGroups_eq_of_perm single reordered commands settings
    unfold run begin
    rw [Invocation.ofArguments_groups single, Invocation.ofArguments_groups single', same]
  · intro gs single report commands script loaded g warnings
    let options := Options.ofGroups gs
    have read := Invocation.ofArguments_groups single
    have begun (alone : options.commands = none ∨ options.script = none) :
        begin env files (gs.flatMap OptionGroup.arguments) = beginRun env files options := by
      have noConflict : ¬ (options.commands.isSome && options.script.isSome) = true := by
        rcases alone with none | none <;> simp [none]
      rw [begin, read, if_neg noConflict]
    refine ⟨?_, ?_, ?_, ?_, ?_, ?_, ?_, ?_⟩
    · intro ignored
      exact Settings.load_of_ignoreFiles _ _ (List.contains_iff_mem.mpr ignored)
    · intro absent path named
      exact Settings.load_of_named _ _ (by simpa using absent) named
    · intro absent none
      exact Settings.load_of_unnamed _ _ (by simpa using absent) (congrArg List.getLast? none)
    · intro (given : options.commands ≠ none) (second : options.script ≠ none)
      have conflict : (options.commands.isSome && options.script.isSome) = true := by
        simp [Option.isSome_iff_ne_none, given, second]
      rw [if_pos conflict] at read
      exact run_of_refused env files input read
    · intro text (given : options.commands = some text) (noScript : options.script = none)
      apply run_of_batchBegun
      rw [begun (.inr noScript), beginRun_eq, given]
      rfl
    · intro path text (noCommands : options.commands = none) (given : options.script = some path)
        content
      apply run_of_batchBegun
      rw [begun (.inl noCommands), beginRun_eq, noCommands, given]
      simp only [content]
      rfl
    · intro path fault (noCommands : options.commands = none) (given : options.script = some path)
        content
      apply run_of_stopBegun
      rw [begun (.inl noCommands), beginRun_eq, noCommands, given]
      simp only [content]
      rfl
    · intro (noCommands : options.commands = none) (noScript : options.script = none)
      apply run_of_inputBegun
      rw [begun (.inl noCommands), beginRun_eq, noCommands, noScript]
      rfl
  · intro arguments
    have none : AtMostOneScript [] := Nat.zero_le 1
    exact Invocation.exists_groups none arguments
  · intro gs rest single report
    constructor
    · intro stops
      have done : report = _ := run_of_help env files input (stops.ofArguments_eq single)
      rw [done]
      exact ⟨rfl, rfl⟩
    · intro fault stops
      have done : report = _ := run_of_refused env files input (stops.ofArguments_eq single)
      rw [done]
      exact ⟨rfl, rfl⟩

/-- Values that look like options, given twice, and in another order.  The second of two files of
settings leaves room for one cell, so that the last commands fail at the second cell, and to ignore
settings makes them succeed.  Without them the input is carried out up to its second line, which is
no text, and a script that is not there is an error.  The first of two more lists stops at an
unknown option and not at its value or at the help option behind, the second one at the help
option. -/
theorem argument_order_lookalikes :
    let env : Environment := { readDocument := Toml.parse? }
    let files : String → FileEntry := fun path =>
      if path = "-x" then .file "[engine]\nmax_cells = 1\n".toUTF8 else .absent .notFound
    let text := "create a 1; create a 2; create b 3; count"
    let gs : List OptionGroup :=
      [.commands true "--help", .settings "-c", .settings "-x", .commands false text]
    let hs : List OptionGroup :=
      [.settings "-c", .commands true "--help", .commands false text, .settings "-x"]
    let input := "set a 1;count\r\n".toUTF8.data.toList ++ [0xff]
    let report (arguments : List String) := run env files arguments input
    let notice := "warning: " ++ redefinitionNotice "a" (.ofNat 1) (.ofNat 2) ++ "\n"
    let refusal := "#ERR " ++ (EngineError.capacityExceeded "b" 1).message ++ "\n"
    gs.flatMap OptionGroup.arguments =
        ["-c", "--help", "--config", "-c", "--config", "-x", "--command", text] ∧
      report (hs.flatMap OptionGroup.arguments) = ⟨refusal, notice, 1⟩ ∧
      report (gs.flatMap OptionGroup.arguments) = ⟨refusal, notice, 1⟩ ∧
      report ((.noSettings :: gs).flatMap OptionGroup.arguments) = ⟨"2\n", notice, 0⟩ ∧
      report [] = ⟨"#ERR cell \"a\" does not exist\n0\n",
        "Error: reading stdin: stream did not contain valid UTF-8\n", 1⟩ ∧
      report ["s"] = ⟨"", "Error: reading s: No such file or directory (os error 2)\n", 1⟩ ∧
      (report ["-c", "--help", "-x", "-h"]).code = 1 ∧
      (report ["-c", "-x", "-h", "-x"]).code = 0 := by
  intro env files text gs hs input report notice refusal
  obtain ⟨same, uses, -, stops⟩ := argument_order env files input
  have single : OptionGroup.AtMostOneScript gs := by decide
  have single' : OptionGroup.AtMostOneScript (.noSettings :: gs) := by decide
  have reordered : gs.Perm hs := by decide
  -- the last file and the last commands
  obtain ⟨-, last, -, -, commands, -⟩ := uses gs single
  have settings := last (by decide) "-x" rfl
  have entry : Settings.ofEntry Toml.parse? "-x" true (files "-x") =
      ({ engine := { maxCells := 1 } }, []) := by decide +kernel
  have full : report (gs.flatMap OptionGroup.arguments) = ⟨refusal, notice, 1⟩ := by
    refine (commands text rfl rfl).trans ?_
    rw [settings, entry]
    decide +kernel
  -- no file, and the same commands
  obtain ⟨ignored, -, -, -, commands', -⟩ := uses (.noSettings :: gs) single'
  have roomy : report ((.noSettings :: gs).flatMap OptionGroup.arguments) = ⟨"2\n", notice, 0⟩ := by
    refine (commands' text rfl rfl).trans ?_
    rw [ignored List.mem_cons_self]
    decide +kernel
  -- neither commands nor a script, and a script
  obtain ⟨-, -, -, -, -, -, -, reads⟩ := uses [] (by decide)
  have typed : report [] = ⟨"#ERR cell \"a\" does not exist\n0\n",
      "Error: reading stdin: stream did not contain valid UTF-8\n", 1⟩ :=
    (reads rfl rfl).trans (by decide +kernel)
  obtain ⟨-, -, -, -, -, -, unreadable, -⟩ := uses [.script "s" (by decide)] (by decide)
  have missing :
      report ["s"] = ⟨"", "Error: reading s: No such file or directory (os error 2)\n", 1⟩ :=
    (unreadable "s" (.os .notFound) rfl rfl rfl).trans (by decide +kernel)
  have unknown : Invocation.StopsAt [.commands true "--help"] ["-x", "-h"]
      (.refused (.unknownOption "-x")) := .unknownOption (by decide) (by decide)
  have help : Invocation.StopsAt [.commands true "-x"] ["-h", "-x"] .help := .help (.inl rfl)
  exact ⟨rfl, (same gs hs single reordered rfl rfl).symm.trans full, full, roomy, typed, missing,
    ((stops _ _ (by decide)).2 _ unknown).1, ((stops _ _ (by decide)).1 help).1⟩

end CommandLine

end NamedCells
