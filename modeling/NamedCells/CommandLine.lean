import NamedCells.LogFilter
import NamedCells.Session
import NamedCells.Settings.Load

/-!
# The command line

The program carries out commands given on the command line or in a script, as a batch that stops at
the first failure, or those that it reads line by line from its input, where it goes on after a
failure.  What it does is a function of its arguments, its environment, the files and the input.

## Main definitions

* `Invocation.ofArguments` — what the arguments ask for.
* `CommandLine.begin` — everything up to the first command: settings, warnings and an engine.
* `CommandLine.run` — what the program writes, the log apart, and its exit code.
-/

namespace NamedCells

/-! ### Arguments -/

/-- What the arguments say when they are in order. -/
structure Options where
  /-- Commands to carry out. -/
  commands : Option String := none
  /-- A file of commands to carry out. -/
  script : Option String := none
  /-- Where the settings are to be read from. -/
  settings : SettingsSource := {}

/-- Why arguments are refused. -/
inductive UsageFault where
  /-- The option for commands is the last argument. -/
  | commandsMissing
  /-- The option for a file of settings is the last argument. -/
  | settingsPathMissing
  /-- An argument looks like an option and is none. -/
  | unknownOption (argument : String)
  /-- There is a second script. -/
  | secondScript (argument : String)
  /-- There are commands and a script. -/
  | commandsAndScript
  deriving DecidableEq, Repr

/-- The fault in words. -/
def UsageFault.message : UsageFault → String
  | .commandsMissing => "--command requires a value"
  | .settingsPathMissing => "--config requires a file path"
  | .unknownOption argument => "Unknown option: " ++ argument
  | .secondScript argument => "Unexpected argument: " ++ argument
  | .commandsAndScript => "--command and SCRIPT cannot be combined"

/-- Whether the help follows the message of a fault. -/
def UsageFault.showsHelp : UsageFault → Bool
  | .unknownOption _ => true
  | .secondScript _ => true
  | _ => false

/-- What the arguments ask for. -/
inductive Invocation where
  /-- Print the help. -/
  | help
  /-- Nothing, because they are not in order. -/
  | refused (fault : UsageFault)
  /-- Carry out commands. -/
  | run (options : Options)

namespace Invocation

/-- Read arguments from the left, after those that gave `options`.  The first help option and the
first fault end the reading; only commands together with a script are noticed at the end. -/
def scan (options : Options) : List String → Invocation
  | [] =>
    if options.commands.isSome && options.script.isSome then .refused .commandsAndScript
    else .run options
  | argument :: rest =>
    if argument = "-h" ∨ argument = "--help" then .help
    else if argument = "-c" ∨ argument = "--command" then
      match rest with
      | [] => .refused .commandsMissing
      | commands :: rest => scan { options with commands := some commands } rest
    else if argument = "--config" then
      match rest with
      | [] => .refused .settingsPathMissing
      | path :: rest =>
        scan { options with settings := { options.settings with file := some path } } rest
    else if argument = "--no-config" then
      scan { options with settings := { options.settings with ignoreFiles := true } } rest
    else if argument.startsWith "-" then .refused (.unknownOption argument)
    else if options.script.isSome then .refused (.secondScript argument)
    else scan { options with script := some argument } rest

/-- What the arguments ask for. -/
def ofArguments (arguments : List String) : Invocation := scan {} arguments

end Invocation

/-! ### Warnings -/

/-- What the program is given besides its arguments, the files and the input. -/
structure Environment where
  /-- The reader of documents with settings. -/
  readDocument : String → Option Toml.Entries
  /-- The file of settings that is read if the caller names none, if there is a place for one. -/
  settingsPath : Option String := none
  /-- The filter of the log that wins over the one of the settings, if it is set. -/
  logFilter : Option String := none

/-- The variable of the environment for the filter of the log. -/
def logVariable : String := "SHEETFORGE_LOG"

/-- The warning about the filter of the log that is to be used, if it is not well formed. -/
def logWarning (env : Environment) (settings : Settings) : Option String :=
  match env.logFilter, settings.logFilter with
  | some filter, _ => (LogFilter.fault? filter).map fun fault =>
    "Ignoring " ++ logVariable ++ "=" ++ Text.quote filter ++ ": " ++ fault.message
  | none, some filter => (LogFilter.fault? filter).map fun fault =>
    "Ignoring log filter " ++ Text.quote filter ++ ": " ++ fault.message
  | none, none => none

namespace CommandLine

/-- The help. -/
def helpLines : List String :=
  ["Usage: sheetforge [OPTIONS] [SCRIPT]",
    "",
    "Arguments:",
    "  [SCRIPT]                  File of commands to run (default: read stdin)",
    "",
    "Options:",
    "  -c, --command <CMDS>      Run ';'-separated commands and exit",
    "  --config <FILE>           Load configuration from FILE",
    "  --no-config               Ignore configuration files",
    "  -h, --help                Print help",
    "",
    "Commands:",
    "  create NAME VALUE   set NAME VALUE   get NAME   show NAME",
    "  remove NAME   has NAME   count   list   reset   error"]

/-- The help as it is written. -/
def help : List Emission := helpLines.map .err

/-- An error that ends the program, as it is written. -/
def errorLine (message : String) : Emission := .err ("Error: " ++ message)

/-! ### Beginning -/

/-- Where the program stands before the first command. -/
inductive Beginning where
  /-- There is no first command: the program ends. -/
  | stop (written : List Emission) (code : Nat)
  /-- There is a batch of commands. -/
  | batch (written : List Emission) (g : Engine) (text : String)
  /-- Commands are to be read from the input. -/
  | input (written : List Emission) (g : Engine)

/-- Everything that options ask for up to the first command. -/
def beginRun (env : Environment) (files : String → FileEntry) (options : Options) : Beginning :=
  let (settings, warnings) :=
    Settings.load env.readDocument env.settingsPath files options.settings
  let warnings := warnings.map SettingsWarning.message ++ (logWarning env settings).toList
  let written := warnings.map fun warning => Emission.err ("Warning: " ++ warning)
  match Engine.make settings.engine with
  | .error fault => .stop (written ++ [errorLine ("creating engine: " ++ fault.message)]) 1
  | .ok g =>
    match options.commands, options.script with
    | some text, _ => .batch written g text
    | none, some path =>
      match (files path).readText with
      | .ok text => .batch written g text
      | .error fault => .stop (written ++ [errorLine (s!"reading {path}: " ++ fault.message)]) 1
    | none, none => .input written g

/-- Everything up to the first command. -/
def begin (env : Environment) (files : String → FileEntry) (arguments : List String) : Beginning :=
  match Invocation.ofArguments arguments with
  | .help => .stop help 0
  | .refused fault =>
    .stop (errorLine fault.message :: (if fault.showsHelp then help else [])) 1
  | .run options => beginRun env files options

/-- The files that the arguments and the environment make the program look at. -/
def paths (env : Environment) (arguments : List String) : List String :=
  match Invocation.ofArguments arguments with
  | .run options =>
    (Settings.path? env.settingsPath options.settings).toList ++ options.script.toList
  | _ => []

/-! ### Commands -/

/-- What outcomes write. -/
def emissions (outcomes : List Outcome) : List Emission := outcomes.filterMap Outcome.emission

/-- Carry out a batch: what it writes, and the exit code. -/
def runBatch (g : Engine) (text : String) : List Emission × Nat :=
  let (outcomes, _) := Session.runUntilFailure g (Script.segments text)
  (emissions outcomes, if outcomes.any Outcome.isFailure then 1 else 0)

/-- The lines of an input: each ends before a line feed, or before a carriage return and a line
feed, and what follows the last line feed is a line if it is not empty. -/
def inputLines (input : List UInt8) : List (List UInt8) :=
  let (line, done) := input.foldl
    (fun (line, done) byte =>
      if byte = 10 then ([], (if line.head? = some 13 then line.drop 1 else line).reverse :: done)
      else (byte :: line, done))
    (([], []) : List UInt8 × List (List UInt8))
  (if line.isEmpty then done else line.reverse :: done).reverse

/-- Carry out the commands of a line of input, unless the line is no text. -/
def runInputLine (g : Engine) (line : List UInt8) : Except ReadFault (List Emission × Engine) :=
  (decodeText line).map fun text =>
    let (outcomes, g) := Session.runLine g text
    (emissions outcomes, g)

/-- What is written when a line of input is no text. -/
def inputError (fault : ReadFault) : Emission := errorLine ("reading stdin: " ++ fault.message)

/-- Carry out lines of input, after what is written already, which is in reverse order: all that
is written, and the engine that is left, unless a line that is no text ended the program. -/
def runInput (written : List Emission) (g : Engine) :
    List (List UInt8) → List Emission × Option Engine
  | [] => (written.reverse, some g)
  | line :: rest =>
    match runInputLine g line with
    | .ok (more, g) => runInput (more.reverse ++ written) g rest
    | .error fault => ((inputError fault :: written).reverse, none)

/-- The exit code after the input, which says nothing about commands that were refused. -/
def inputCode (left : Option Engine) : Nat := if left.isSome then 0 else 1

/-! ### The program -/

/-- What a program writes, and its exit code.  The lines of its log, which say when and where
something happened, are left out of what it writes as notices. -/
structure Report where
  /-- What is written for programs that follow. -/
  stdout : String
  /-- What is written as notices. -/
  stderr : String
  /-- The exit code. -/
  code : Nat
  deriving DecidableEq, Repr

/-- Lines as they are written. -/
def writeLines (lines : List String) : String :=
  lines.foldl (fun text line => text ++ line ++ "\n") ""

/-- What is written to the two streams. -/
def Report.ofEmissions (written : List Emission) (code : Nat) : Report :=
  { stdout := writeLines (written.filterMap Emission.output?)
    stderr := writeLines (written.filterMap Emission.notice?)
    code }

/-- What the program writes, and its exit code.  The log is left out: with the filter that it has
unless told otherwise, its only line is a warning for each cell that is created once more.  So is
the wording of the reader about a text that is no document. -/
def run (env : Environment) (files : String → FileEntry) (arguments : List String)
    (input : List UInt8) : Report :=
  match begin env files arguments with
  | .stop written code => .ofEmissions written code
  | .batch written g text =>
    let (more, code) := runBatch g text
    .ofEmissions (written ++ more) code
  | .input written g =>
    let (more, left) := runInput [] g (inputLines input)
    .ofEmissions (written ++ more) (inputCode left)

end CommandLine

end NamedCells
